import NativeStyle.Animation.Term
import NativeStyle.Text.Digit

/-!
# Records and failures

A run keeps a log of records, in order, and may fail; what was recorded before a failure stays in
the log.

Main statements: `records_bind_ok`, `records_bind_error` (a second step adds its records behind
those of the first, and is not taken after a failure).
-/

namespace NativeStyle

/-! ## Records -/

/-- How much a record matters. -/
inductive Level where
  | debug
  | info
  | warning
  | error
deriving DecidableEq, Repr

/-- Something worth telling about a run. -/
inductive Record where
  /-- A relative length has become pixels. -/
  | converting (length pixels : Text)
  /-- An at-rule was skipped that the engine is known not to have. -/
  | skipping (name : Text)
  /-- An at-rule was dropped that is not known at all. -/
  | unknown (name : Text)
  /-- A layer was dropped since it is nested too deep. -/
  | tooDeep (params : Text) (maxDepth : Int)
  /-- A stylesheet could not be adapted. -/
  | failed
  /-- A stylesheet was adapted. -/
  | transformed (source : Text)
deriving DecidableEq, Repr

namespace Record

/-- How much the record matters. -/
def level : Record → Level
  | converting .. | skipping _ | transformed _ => .info
  | unknown _ => .debug
  | tooDeep .. => .warning
  | failed => .error

/-- The message of the record. -/
def message : Record → Text
  | converting length pixels => "Converting ".toList ++ length ++ " to ".toList ++ pixels
  | skipping name => "Skipping @".toList ++ name
  | unknown name => "Dropping unknown at-rule @".toList ++ name
  | tooDeep params maxDepth =>
    "Dropping @layer ".toList ++ params ++ ": nesting deeper than ".toList ++
      Text.ofInt maxDepth ++ " levels".toList
  | failed => "Failed to transform stylesheet".toList
  | transformed source => "Transformed: ".toList ++ source

end Record

/-! ## Failures -/

/-- Why a run can fail. -/
inductive Failure where
  /-- An animation holds a time without a value. -/
  | unreadableTime (time : Animation.Term)
deriving DecidableEq, Repr

/-! ## Logged results -/

/-- A result or a failure, with the records made on the way. -/
structure Logged (α : Type) where
  records : List Record
  result : Except Failure α

namespace Logged

variable {α β : Type}

/-- The records of both steps; the second is taken only if the first gives a result. -/
protected def bind (x : Logged α) (f : α → Logged β) : Logged β :=
  match x.result with
  | .ok a => ⟨x.records ++ (f a).records, (f a).result⟩
  | .error e => ⟨x.records, .error e⟩

instance : Monad Logged where
  pure a := ⟨[], .ok a⟩
  bind := Logged.bind

/-- The records alone. -/
def log (records : List Record) : Logged Unit :=
  ⟨records, .ok ()⟩

/-- The result alone. -/
def ofResult (result : Except Failure α) : Logged α :=
  ⟨[], result⟩

/-! ## Laws -/

theorem records_bind_ok {x : Logged α} {f : α → Logged β} {a : α} (h : x.result = .ok a) :
    (x >>= f).records = x.records ++ (f a).records ∧ (x >>= f).result = (f a).result := by
  simp [bind, Logged.bind, h]

theorem records_bind_error {x : Logged α} {f : α → Logged β} {e : Failure}
    (h : x.result = .error e) : (x >>= f).records = x.records ∧ (x >>= f).result = .error e := by
  simp [bind, Logged.bind, h]

@[ext] theorem ext {x y : Logged α} (hrecords : x.records = y.records)
    (hresult : x.result = y.result) : x = y := by
  cases x; cases y; cases hrecords; cases hresult; rfl

instance : LawfulMonad Logged :=
  LawfulMonad.mk' Logged
    (by
      intro α x
      cases x with
      | mk records result => cases result <;> simp [Functor.map, Logged.bind])
    (by
      intro α β a f
      simp [bind, Logged.bind, pure])
    (by
      intro α β γ x f g
      cases x with
      | mk records result =>
        cases result with
        | error e => simp [bind, Logged.bind]
        | ok a =>
          simp only [bind, Logged.bind]
          cases (f a).result <;> simp)

end Logged

end NativeStyle
