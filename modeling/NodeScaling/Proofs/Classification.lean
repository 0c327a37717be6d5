import NodeScaling.Proofs.OrderedJson
import NodeScaling.Reply

/-!
How responses are told apart. A body of status 200 is a failure if a message that is not empty
stands in one of a few places, which are listed here as relations between values. Nothing else of
the body matters to that, and neither does the expected payload.
-/
namespace NodeScaling

namespace ServiceError

/-- A body holds a value in the place of its error. -/
inductive Holds : Json → Json → Prop where
  | member {ms : List (String × Json)} {e : Json} (named : ms.lookup "error" = some e) :
      Holds (.object ms) e
  | element (e : Json) : Holds (.array [e]) e

def writtenCode : Option Json → String
  | none => ""
  | some .null => ""
  | some (.string s) => s
  | some other => other.text

inductive Describes : Json → String → String → Prop where
  | named {ms : List (String × Json)} {message : String}
      (message_named : ms.lookup "errorMessage" = some (.string message)) :
      Describes (.object ms) message (writtenCode (ms.lookup "code"))
  | message (message : String) : Describes (.array [.string message]) message (writtenCode none)
  | coded (message : String) (code : Json) :
      Describes (.array [.string message, code]) message (writtenCode (some code))

def Reports (body : Json) (message code : String) : Prop :=
  message ≠ "" ∧ ∃ e, Holds body e ∧ Describes e message code

variable {body e : Json} {message code : String}

theorem codeText_eq (value : Json) : codeText value = writtenCode (some value) := by
  cases value <;> rfl

theorem code_of_slot (found : Option Json) (missing : Json.Slot)
    (default : missing.orDefault? "" (fun value => some (codeText value)) = some "") :
    (found.elim missing .given).orDefault? "" (fun value => some (codeText value)) =
      some (writtenCode found) := by
  cases found with
  | none => exact default
  | some value =>
    rw [← codeText_eq]
    rfl

theorem message_of_slot (found : Option Json) (missing : Json.Slot)
    (default : missing.orDefault? "" (Json.orNull? "" Json.string?) = some "")
    (nonempty : message ≠ "") :
    (found.elim missing .given).orDefault? "" (Json.orNull? "" Json.string?) = some message ↔
      found = some (.string message) := by
  cases found with
  | none => simp [default, nonempty.symm]
  | some value =>
    cases value <;> simp [Json.Slot.orDefault?, Json.orNull?, Json.string?, nonempty.symm]

theorem ofJson?_of_slots (messageFound codeFound : Option Json) (missing : Json.Slot)
    (record : e.isRecord 2)
    (messageSlot : e.field? 0 ["errorMessage"] = some (messageFound.elim missing .given))
    (codeSlot : e.field? 1 ["code"] = some (codeFound.elim missing .given))
    (default : ∀ decode : Json → Option String, missing.orDefault? "" decode = some "")
    (nonempty : message ≠ "") :
    ofJson? e = some ⟨message, code⟩ ↔
      messageFound = some (.string message) ∧ code = writtenCode codeFound := by
  rw [← message_of_slot messageFound missing (default _) nonempty, ofJson?, if_pos record,
    messageSlot, codeSlot]
  simp only [Option.bind_eq_bind, Option.bind_some, code_of_slot codeFound missing (default _)]
  rw [Option.bind_eq_some_iff]
  constructor
  · rintro ⟨read, isRead, same⟩
    cases same
    exact ⟨isRead, rfl⟩
  · rintro ⟨isRead, isCode⟩
    exact ⟨message, isRead, by rw [isCode]; rfl⟩

theorem ofJson?_eq_some_iff (ordered : e.Ordered) (nonempty : message ≠ "") :
    ofJson? e = some ⟨message, code⟩ ↔ Describes e message code := by
  have other (unreadable : e.isRecord 2 = false) : ofJson? e ≠ some ⟨message, code⟩ := by
    rw [ofJson?, unreadable]
    nofun
  cases ordered with
  | null | bool | number | string =>
    constructor
    · intro read
      exact absurd read (other rfl)
    · nofun
  | object ms ascending values =>
    rw [ofJson?_of_slots (ms.lookup "errorMessage") (ms.lookup "code") .absent rfl
      (Json.field?_object 0 _ ascending) (Json.field?_object 1 _ ascending) (fun _ => rfl) nonempty]
    constructor
    · rintro ⟨named, rfl⟩
      exact .named named
    · intro described
      cases described with
      | named named => exact ⟨named, rfl⟩
  | array xs elements =>
    by_cases long : 2 < xs.length
    · constructor
      · intro read
        exact absurd read (other (by simp [Json.isRecord, long]))
      · intro described
        cases described <;> simp at long
    · have short : Json.isRecord 2 (.array xs) := by simpa [Json.isRecord] using long
      have slot (place : Nat) (name : String) :
          Json.field? place [name] (.array xs) = some (xs[place]?.elim .cut .given) := by
        rw [Json.field?]
        cases xs[place]? <;> rfl
      rw [ofJson?_of_slots xs[0]? xs[1]? .cut short (slot 0 _) (slot 1 _) (fun _ => rfl) nonempty]
      constructor
      · rintro ⟨first, rfl⟩
        obtain _ | ⟨x, _ | ⟨y, _ | ⟨z, rest⟩⟩⟩ := xs
        · cases first
        · cases first
          exact .message message
        · cases first
          exact .coded message y
        · simp at long
      · intro described
        cases described with
        | message => exact ⟨rfl, rfl⟩
        | coded => exact ⟨rfl, rfl⟩

theorem ordered_of_holds (ordered : body.Ordered) (holds : Holds body e) : e.Ordered := by
  cases holds with
  | member named =>
    cases ordered with
    | object _ _ values => exact Json.ordered_of_lookup values named
  | element =>
    cases ordered with
    | array _ elements => exact elements e List.mem_cons_self

/-- A null error is read as none, and so it is no exception among the values that are not one. -/
theorem reported_of_value (value : Json) :
    ((Json.orNull? none (fun v => (ofJson? v).map some) value).bind fun error =>
      error.filter fun e => !e.message.isEmpty) =
      (ofJson? value).filter fun e => !e.message.isEmpty := by
  cases value with
  | null => rfl
  | _ =>
    rw [Json.orNull?]
    · cases ofJson? _ <;> rfl
    · nofun

theorem reported?_of_slot (found : Option Json) (missing : Json.Slot) (record : body.isRecord 1)
    (slot : body.field? 0 ["error"] = some (found.elim missing .given))
    (default : ∀ decode : Json → Option (Option ServiceError),
      missing.orDefault? none decode = some none)
    (holds : ∀ e, found = some e ↔ Holds body e) :
    reported? body = some ⟨message, code⟩ ↔
      message ≠ "" ∧ ∃ e, Holds body e ∧ ofJson? e = some ⟨message, code⟩ := by
  rw [reported?, if_pos record, slot]
  simp only [Option.bind_eq_bind, Option.bind_some, ← holds]
  cases found with
  | none => simp [default]
  | some value =>
    rw [Option.elim_some, Json.Slot.orDefault?, reported_of_value, Option.filter_eq_some_iff]
    constructor
    · rintro ⟨read, nonempty⟩
      exact ⟨by simpa using nonempty, value, rfl, read⟩
    · rintro ⟨nonempty, e, same, read⟩
      cases same
      exact ⟨read, by simpa using nonempty⟩

theorem reported?_iff_holds (ordered : body.Ordered) :
    reported? body = some ⟨message, code⟩ ↔
      message ≠ "" ∧ ∃ e, Holds body e ∧ ofJson? e = some ⟨message, code⟩ := by
  have other (unreadable : body.isRecord 1 = false) (holds : ∀ e, ¬ Holds body e) :
      reported? body = some ⟨message, code⟩ ↔
        message ≠ "" ∧ ∃ e, Holds body e ∧ ofJson? e = some ⟨message, code⟩ := by
    rw [reported?, unreadable]
    constructor
    · nofun
    · rintro ⟨-, e, held, -⟩
      exact absurd held (holds e)
  cases ordered with
  | null | bool | number | string => exact other rfl (by nofun)
  | object ms ascending values =>
    refine reported?_of_slot (ms.lookup "error") .absent rfl (Json.field?_object 0 _ ascending)
      (fun _ => rfl) fun e => ⟨.member, ?_⟩
    intro held
    cases held with
    | member named => exact named
  | array xs elements =>
    match xs with
    | [] =>
      refine reported?_of_slot none .cut rfl rfl (fun _ => rfl) fun e => ⟨by nofun, ?_⟩
      nofun
    | [x] =>
      refine reported?_of_slot (some x) .cut rfl rfl (fun _ => rfl) fun e => ⟨?_, ?_⟩
      · rintro ⟨⟩
        exact .element x
      · rintro ⟨⟩
        rfl
    | _ :: _ :: _ => exact other (by simp [Json.isRecord]) (by nofun)

theorem reported?_eq_some_iff (ordered : body.Ordered) :
    reported? body = some ⟨message, code⟩ ↔ Reports body message code := by
  rw [reported?_iff_holds ordered, Reports]
  refine and_congr_right fun nonempty => exists_congr fun e => and_congr_right fun held => ?_
  exact ofJson?_eq_some_iff (ordered_of_holds ordered held) nonempty

end ServiceError

theorem Reply.ordered_of_bodyValue {body : ByteArray} {value : Json}
    (valid : bodyValue? body = some value) : value.Ordered := by
  obtain ⟨written, -, canonical⟩ := Option.bind_eq_some_iff.mp valid
  exact Json.ordered_of_canonical _ written canonical

section Classify
variable {α : Type} (decode : Json → Option α) (status : UInt16) (body : ByteArray)

def ReportsError (message code : String) : Prop :=
  ∃ value, Reply.bodyValue? body = some value ∧ ServiceError.Reports value message code

theorem classify_of_status (bad : status ≠ 200) :
    classify decode status body =
      .error (.httpStatus status ("AutoScalr API returned: " ++ toString status.toNat)) := by
  rw [classify, if_pos bad]

theorem classify_of_report {message code : String} (reported : ReportsError body message code) :
    classify decode 200 body = .error (.remote message code) := by
  obtain ⟨value, valid, reports⟩ := reported
  have found := (ServiceError.reported?_eq_some_iff (Reply.ordered_of_bodyValue valid)).mpr reports
  have failed : Reply.ofBody decode body = .failure ⟨message, code⟩ := by
    simp only [Reply.ofBody, valid, found]
  simp [classify, failed]

theorem classify_of_no_report (silent : ¬ ∃ message code, ReportsError body message code) :
    classify decode 200 body = .ok ((Reply.bodyValue? body).bind decode) := by
  have read : Reply.ofBody decode body =
      (((Reply.bodyValue? body).bind decode).map .success).getD .unrecognized := by
    cases valid : Reply.bodyValue? body with
    | none => simp only [Reply.ofBody, valid]; rfl
    | some value =>
      have none : ServiceError.reported? value = none := by
        cases found : ServiceError.reported? value with
        | none => rfl
        | some error =>
          have reports :=
            (ServiceError.reported?_eq_some_iff (Reply.ordered_of_bodyValue valid)).mp found
          exact absurd ⟨error.message, error.code, value, valid, reports⟩ silent
      simp only [Reply.ofBody, valid, none, Option.bind_some]
      cases decode value <;> rfl
  rw [classify, if_neg (by decide), read]
  cases (Reply.bodyValue? body).bind decode <;> rfl

theorem classify_error_iff (e : BridgeError) :
    classify decode status body = .error e ↔
      (status ≠ 200 ∧
        e = .httpStatus status ("AutoScalr API returned: " ++ toString status.toNat)) ∨
      (status = 200 ∧ ∃ message code, ReportsError body message code ∧
        e = .remote message code) := by
  by_cases good : status = 200
  · subst good
    by_cases reported : ∃ message code, ReportsError body message code
    · obtain ⟨message, code, reports⟩ := reported
      constructor
      · intro failed
        rw [classify_of_report decode body reports] at failed
        cases failed
        exact Or.inr ⟨rfl, message, code, reports, rfl⟩
      · rintro (⟨bad, -⟩ | ⟨-, message', code', reports', rfl⟩)
        · exact absurd rfl bad
        · exact classify_of_report decode body reports'
    · rw [classify_of_no_report decode body reported]
      constructor
      · nofun
      · rintro (⟨bad, -⟩ | ⟨-, message, code, reports, -⟩)
        · exact absurd rfl bad
        · exact absurd ⟨message, code, reports⟩ reported
  · rw [classify_of_status decode status body good]
    constructor
    · rintro ⟨⟩
      exact Or.inl ⟨good, rfl⟩
    · rintro (⟨-, rfl⟩ | ⟨is200, -⟩)
      · rfl
      · exact absurd is200 good

theorem classify_ok_iff (found : Option α) :
    classify decode status body = .ok found ↔
      status = 200 ∧ (¬ ∃ message code, ReportsError body message code) ∧
        found = (Reply.bodyValue? body).bind decode := by
  by_cases good : status = 200
  · subst good
    by_cases reported : ∃ message code, ReportsError body message code
    · obtain ⟨message, code, reports⟩ := reported
      rw [classify_of_report decode body reports]
      constructor
      · nofun
      · rintro ⟨-, silent, -⟩
        exact absurd ⟨message, code, reports⟩ silent
    · rw [classify_of_no_report decode body reported]
      constructor
      · rintro ⟨⟩
        exact ⟨rfl, reported, rfl⟩
      · rintro ⟨-, -, rfl⟩
        rfl
  · rw [classify_of_status decode status body good]
    constructor
    · nofun
    · rintro ⟨is200, -⟩
      exact absurd is200 good

theorem holds_object_iff (ms : List (String × Json)) (e : Json) :
    ServiceError.Holds (.object ms) e ↔ ms.lookup "error" = some e := by
  constructor
  · intro held
    cases held with
    | member named => exact named
  · exact .member

theorem reportsError_congr {other : ByteArray} {ms ms' : List (String × Json)}
    (value : Reply.bodyValue? body = some (.object ms))
    (value' : Reply.bodyValue? other = some (.object ms'))
    (same : ms.lookup "error" = ms'.lookup "error") (message code : String) :
    ReportsError body message code ↔ ReportsError other message code := by
  rw [ReportsError, ReportsError, value, value']
  simp only [Option.some.injEq, exists_eq_left', ServiceError.Reports, holds_object_iff, same]

end Classify

theorem silent_of_no_error {body : ByteArray} {ms : List (String × Json)}
    (value : Reply.bodyValue? body = some (.object ms)) (missing : ms.lookup "error" = none) :
    ¬ ∃ message code, ReportsError body message code := by
  rintro ⟨message, code, held, valid, -, e, holds, -⟩
  rw [value] at valid
  cases valid
  rw [holds_object_iff, missing] at holds
  cases holds

/-- The outcome of every response: the failures are those of a status other than 200 and those that
a body reports, and the latter are told by the error member alone, whatever else the body says and
whatever payload is expected. -/
theorem responses_classified_exactly {α β : Type} (decode : Json → Option α) (status : UInt16)
    (body : ByteArray) :
    (∀ e, classify decode status body = .error e ↔
      (status ≠ 200 ∧
        e = .httpStatus status ("AutoScalr API returned: " ++ toString status.toNat)) ∨
      (status = 200 ∧ ∃ message code, ReportsError body message code ∧ e = .remote message code)) ∧
    (∀ found, classify decode status body = .ok found ↔
      status = 200 ∧ (¬ ∃ message code, ReportsError body message code) ∧
        found = (Reply.bodyValue? body).bind decode) ∧
    (∀ (decode' : Json → Option β) e,
      classify decode' status body = .error e ↔ classify decode status body = .error e) ∧
    (∀ (other : ByteArray) (ms ms' : List (String × Json)),
      Reply.bodyValue? body = some (.object ms) → Reply.bodyValue? other = some (.object ms') →
        ms.lookup "error" = ms'.lookup "error" →
          ∀ e, classify decode status other = .error e ↔
            classify decode status body = .error e) := by
  refine ⟨classify_error_iff decode status body, classify_ok_iff decode status body, ?_, ?_⟩
  · intro decode' e
    rw [classify_error_iff, classify_error_iff]
  · intro other ms ms' value value' same e
    rw [classify_error_iff, classify_error_iff]
    simp only [reportsError_congr body value value' same]

end NodeScaling
