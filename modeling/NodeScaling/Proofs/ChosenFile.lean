import NodeScaling.Proofs.Attempts
import NodeScaling.Proofs.SettingValues
import NodeScaling.Settings.File

/-!
The one file behind a configuration. There is exactly one way in which the candidates lead to a file,
to none, to a path where nothing is, or to a working directory that is not known. A configuration
depends on the world through the text of that file and through the variables of settings; a file that
cannot be used is not passed over.
-/
namespace NodeScaling

inductive FileChoice where
  | missing (path : String)
  | file (path : String)
  /-- The working directory is not known, in which the next candidate would be. -/
  | lost
  | nothing

def Environment.NamesNone (env : Environment) (files : FileTree) : Prop :=
  ∀ path, env "CAPBRIDGE_CONFIG_PATH" = some path → files.contains path = false

namespace FileChoice

def found : FileChoice → Except ConfigError (Option String)
  | missing path => .error (.fileNotFound path)
  | file path => .ok (some path)
  | lost => .error (.io "the working directory is not known")
  | nothing => .ok none

def settings (files : FileTree) : FileChoice → Except ConfigError Settings
  | missing path => .error (.fileNotFound path)
  | file path => Settings.ofFile files path
  | lost => .error (.io "the working directory is not known")
  | nothing => .ok {}

end FileChoice

section Search
variable {files : FileTree} {env : Environment} {explicit : Option String} {choice : FileChoice}

theorem Environment.NamesNone.filter (unnamed : env.NamesNone files) :
    (env "CAPBRIDGE_CONFIG_PATH").filter files.contains = none := by
  refine Option.filter_eq_none_iff.mpr fun path names => ?_
  rw [unnamed path names]
  exact Bool.false_ne_true

end Search

namespace Settings

end Settings

namespace Config
variable {files files' : FileTree} {env env' : Environment} {explicit explicit' : Option String}
  {choice choice' : FileChoice}

end Config

end NodeScaling
