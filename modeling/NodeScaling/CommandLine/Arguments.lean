import NodeScaling.Text.Integer

/-!
The arguments of the command line. Options may stand before the command and after it; given in
both places, the ones after the command count. Given twice in one place, an option is refused.
After two hyphens on their own everything is an operand.
-/
namespace NodeScaling.CommandLine

inductive Command where
  | exist
  | create
  | delete
  | targetSize
  | increaseSize (delta : Int64)
  | decreaseTargetSize (delta : Int64)
  | deleteNodes (providerIds : List String)
  | show
  | report (snapshot : String) (strict : Bool)
  | instanceTypes
  | version
  deriving DecidableEq

structure Invocation where
  config : Option String := none
  verbose : Bool := false
  minSize : Nat := 0
  maxSize : Nat := 100
  command : Command
  deriving DecidableEq

inductive Stop where
  | help
  | usage
  deriving DecidableEq, Repr

inductive Kind where
  | exist
  | create
  | delete
  | targetSize
  | increaseSize
  | decreaseTargetSize
  | deleteNodes
  | show
  | report
  | instanceTypes
  | version
  deriving DecidableEq, Repr

def kinds : List (String × Kind) := [
  ("exist", .exist), ("create", .create), ("delete", .delete), ("target-size", .targetSize),
  ("increase-size", .increaseSize), ("decrease-target-size", .decreaseTargetSize),
  ("delete-nodes", .deleteNodes), ("show", .show), ("report", .report),
  ("instance-types", .instanceTypes), ("version", .version)]

def usage : String :=
  "Usage: capbridge [-c PATH] [-v] [--min-size N] [--max-size N] COMMAND\nCommands: " ++
    ", ".intercalate (kinds.map Prod.fst) ++ "\n"

def Kind.takesNumber : Kind → Bool
  | increaseSize | decreaseTargetSize => true
  | _ => false

inductive ValueOption where
  | config
  | minSize
  | maxSize
  | snapshot
  deriving DecidableEq

inductive Flag where
  | verbose
  | strict
  deriving DecidableEq

inductive Item where
  | option (o : ValueOption) (value : String)
  | flag (f : Flag)
  | operand (text : String)

def longOption? (place : Option Kind) (name : String) : Option (ValueOption ⊕ Flag) :=
  match name with
  | "config" => some (.inl .config)
  | "min-size" => some (.inl .minSize)
  | "max-size" => some (.inl .maxSize)
  | "verbose" => some (.inr .verbose)
  | "snapshot" => if place = some .report then some (.inl .snapshot) else none
  | "strict" => if place = some .report then some (.inr .strict) else none
  | _ => none

/-- Whether an argument is an option by its look; a single hyphen is an operand. -/
def looksLikeOption (arg : String) : Bool :=
  match arg.toList with
  | '-' :: _ :: _ => true
  | _ => false

/-- Whether a text after a hyphen looks like a number: digits with at most one point and one
exponent mark, neither of them first, and the mark not last. -/
def looksLikeNumber (digits : List Char) : Bool :=
  let whole := digits.dropWhile Char.isDigit
  let fraction :=
    match whole with
    | '.' :: rest => if digits.head? = some '.' then whole else rest.dropWhile Char.isDigit
    | _ => whole
  match fraction with
  | [] => true
  | 'e' :: power => digits.head? ≠ some 'e' && !power.isEmpty && power.all Char.isDigit
  | _ => false

def looksNegative (arg : String) : Bool :=
  match arg.toList with
  | '-' :: c :: cs => looksLikeNumber (c :: cs)
  | _ => false

/-- Whether an argument can be a value. It may not look like an option, except for a negative
number where a number is expected. -/
def canBeValue (numbers : Bool) (arg : String) : Bool :=
  !looksLikeOption arg || (numbers && looksNegative arg)

def nextValue (numbers : Bool) (o : ValueOption) :
    List String → Except Stop (Item × List String)
  | value :: rest => if canBeValue numbers value then .ok (.option o value, rest) else .error .usage
  | [] => .error .usage

/-- The options after one hyphen, which may stand together. The last one may have its value in
the same argument. -/
def shortItems (numbers : Bool) : List Char → List String → Except Stop (List Item × List String)
  | [], rest => .ok ([], rest)
  | 'v' :: cs, rest => do
    let (items, rest) ← shortItems numbers cs rest
    return (.flag .verbose :: items, rest)
  | ['c'], rest => do
    let (item, rest) ← nextValue numbers .config rest
    return ([item], rest)
  | 'c' :: '=' :: value, rest => .ok ([.option .config (String.ofList value)], rest)
  | 'c' :: value, rest => .ok ([.option .config (String.ofList value)], rest)
  | 'h' :: _, _ => .error .help
  | _, _ => .error .usage

def longItem (place : Option Kind) (numbers : Bool) (body : List Char) (rest : List String) :
    Except Stop (Item × List String) :=
  let name := String.ofList (body.takeWhile (· ≠ '='))
  let value := body.dropWhile (· ≠ '=')
  match longOption? place name, value with
  | some (.inl o), _ :: value => .ok (.option o (String.ofList value), rest)
  | some (.inl o), [] => nextValue numbers o rest
  | some (.inr f), [] => .ok (.flag f, rest)
  | some (.inr _), _ :: _ => .error .usage
  | none, value => if name = "help" && value.isEmpty then .error .help else .error .usage

/-- What an argument says, and the arguments after it. The flag tells whether a number is expected
as an operand. -/
def readItems (place : Option Kind) (numbers : Bool) (arg : String) (rest : List String) :
    Except Stop (List Item × List String) :=
  if canBeValue numbers arg then .ok ([.operand arg], rest)
  else
    match arg.toList with
    | '-' :: '-' :: body => do
      let (item, rest) ← longItem place numbers body rest
      return ([item], rest)
    | _ => shortItems numbers (arg.toList.drop 1) rest

structure Given where
  config : Option String := none
  verbose : Bool := false
  minSize : Option Nat := none
  maxSize : Option Nat := none
  snapshot : Option String := none
  strict : Bool := false

namespace Given

def path (value : String) : Except Stop String :=
  if value.isEmpty then .error .usage else .ok value

def size (value : String) : Except Stop Nat :=
  match Text.readUInt64 value with
  | .ok n => .ok n.toNat
  | .error _ => .error .usage

def once {α : Type} (current : Option α) (value : Except Stop α) : Except Stop (Option α) :=
  if current.isSome then .error .usage else value.map some

def addOption (g : Given) (value : String) : ValueOption → Except Stop Given
  | .config => (once g.config (path value)).map fun x => { g with config := x }
  | .minSize => (once g.minSize (size value)).map fun x => { g with minSize := x }
  | .maxSize => (once g.maxSize (size value)).map fun x => { g with maxSize := x }
  | .snapshot => (once g.snapshot (path value)).map fun x => { g with snapshot := x }

def addFlag (g : Given) : Flag → Except Stop Given
  | .verbose => if g.verbose then .error .usage else .ok { g with verbose := true }
  | .strict => if g.strict then .error .usage else .ok { g with strict := true }

end Given

structure Tail where
  given : Given := {}
  operands : List String := []

def Tail.addOperand (kind : Kind) (t : Tail) (text : String) : Except Stop Tail :=
  let longer := { t with operands := t.operands ++ [text] }
  match kind with
  | .deleteNodes => .ok longer
  | .increaseSize | .decreaseTargetSize =>
    if t.operands.isEmpty && (Text.readInt64 text).toOption.isSome then .ok longer
    else .error .usage
  | _ => .error .usage

def Tail.add (kind : Kind) (t : Tail) : Item → Except Stop Tail
  | .option o value => (t.given.addOption value o).map fun g => { t with given := g }
  | .flag f => (t.given.addFlag f).map fun g => { t with given := g }
  | .operand text => t.addOperand kind text

def readTail (kind : Kind) : Nat → Tail → List String → Except Stop Tail
  | _, t, [] => .ok t
  | 0, _, _ => .error .usage
  | steps + 1, t, arg :: rest =>
    if arg = "--" then rest.foldlM (fun t text => t.addOperand kind text) t
    else do
      let numbers := kind.takesNumber && t.operands.isEmpty
      let (items, rest) ← readItems (some kind) numbers arg rest
      let t ← items.foldlM (fun t item => t.add kind item) t
      readTail kind steps t rest

def command (kind : Kind) (t : Tail) : Except Stop Command :=
  let number (make : Int64 → Command) : Except Stop Command :=
    match t.operands.map Text.readInt64 with
    | [.ok delta] => .ok (make delta)
    | _ => .error .usage
  match kind with
  | .exist => .ok .exist
  | .create => .ok .create
  | .delete => .ok .delete
  | .targetSize => .ok .targetSize
  | .increaseSize => number .increaseSize
  | .decreaseTargetSize => number .decreaseTargetSize
  | .deleteNodes => if t.operands.isEmpty then .error .usage else .ok (.deleteNodes t.operands)
  | .show => .ok .show
  | .report =>
    match t.given.snapshot with
    | some path => .ok (.report path t.given.strict)
    | none => .error .usage
  | .instanceTypes => .ok .instanceTypes
  | .version => .ok .version

def invocation (before : Given) (kind : Kind) (t : Tail) : Except Stop Invocation := do
  let after := t.given
  return {
    config := after.config.orElse fun _ => before.config
    verbose := after.verbose || before.verbose
    minSize := (after.minSize.orElse fun _ => before.minSize).getD 0
    maxSize := (after.maxSize.orElse fun _ => before.maxSize).getD 100
    command := ← command kind t }

def helpName : String := "help"

def helpStop : List String → Stop
  | [] => .help
  | [name] => if (kinds.lookup name).isSome || name = helpName then .help else .usage
  | _ => .usage

def readHead : Nat → Given → List String → Except Stop Invocation
  | _, _, [] => .error .usage
  | 0, _, _ => .error .usage
  | steps + 1, g, arg :: rest =>
    if arg = "--" then .error .usage
    else if looksLikeOption arg then do
      let (items, rest) ← readItems none false arg rest
      let g ← items.foldlM (fun (g : Given) item =>
        match item with
        | .option o value => g.addOption value o
        | .flag f => g.addFlag f
        | .operand _ => .error .usage) g
      readHead steps g rest
    else
      match kinds.lookup arg with
      | some kind => do invocation g kind (← readTail kind rest.length {} rest)
      | none => .error (if arg = helpName then helpStop rest else .usage)

def Invocation.ofArguments (args : List String) : Except Stop Invocation :=
  readHead args.length {} args

end NodeScaling.CommandLine
