import ShapeMatch.Schema.Validate

/-! Dispatch: the first case whose schema accepts the value decides, and its handler gets the
validated value. -/
namespace ShapeMatch

variable [RegexEngine]

/-- A schema with the function to apply to the values it accepts. -/
structure Case where
  schema : Schema
  handler : Function

/-- A note on how a dispatch or the loading of a configuration went. -/
inductive LogEntry where
  | matched (index : Nat) (schema : Schema) (v : Value)
  | unmatched (count : Nat) (v : Value)
  | loaded (count : Nat) (hasDefault : Bool)

def LogEntry.message : LogEntry → String
  | .matched index schema v =>
    "case " ++ toString index ++ " (" ++ schema.label ++ ") matched " ++ v.display
  | .unmatched count v => "none of " ++ toString count ++ " cases matched " ++ v.display
  | .loaded count hasDefault =>
    "loaded matcher with " ++ toString count ++ " cases (default: " ++
      (if hasDefault then "True" else "False") ++ ")"

/-- Whether an entry has a text. -/
def LogEntry.isWritable : LogEntry → Bool
  | .matched _ schema v => schema.isWritable && v.isWritable
  | .unmatched _ v => v.isWritable
  | .loaded .. => true

/-- Why a dispatch gave no result. -/
inductive DispatchError where
  | noMatch (v : Value) (tried : List Schema)
  /-- a schema answered with this value and no verdict -/
  | noVerdict (schema : Schema) (answer : Value)
  | fault (f : Fault)

def DispatchError.message : DispatchError → String
  | .noMatch v [] => "no case matched " ++ v.display ++ " (no cases declared)"
  | .noMatch v tried =>
    "no case matched " ++ v.display ++ " (tried " ++ toString tried.length ++ ": " ++
      commaSeparated (tried.map Schema.label) ++ ")"
  | .noVerdict schema answer =>
    "schema " ++ schema.asValue.display ++ " returned " ++ answer.className ++
      " from validate(); expected Valid or Invalid"
  | .fault f => f.message

/-- A dispatch: its outcome, and what it noted on the way. -/
structure Run where
  outcome : Except DispatchError Value
  log : List LogEntry

/-- What keeps the notes of a program, which is not up to the library. -/
class Logging where
  /-- Whether an entry without a text raises. Ordinary handlers keep that to themselves. -/
  raises : Bool

/-- Ordinary handlers, or none. -/
@[reducible] def Logging.ordinary : Logging := ⟨false⟩

section

variable [Logging]

/-- Notes an entry before an outcome. -/
def Run.noting (entry : LogEntry) (outcome : Except DispatchError Value) : Run :=
  if Logging.raises && !entry.isWritable then ⟨.error (.fault .unwritable), []⟩
  else ⟨outcome, [entry]⟩

theorem Run.noting_of_quiet (h : Logging.raises = false) (entry : LogEntry)
    (outcome : Except DispatchError Value) : Run.noting entry outcome = ⟨outcome, [entry]⟩ := by
  simp [Run.noting, h]

theorem Run.noting_of_isWritable {entry : LogEntry} (h : entry.isWritable)
    (outcome : Except DispatchError Value) : Run.noting entry outcome = ⟨outcome, [entry]⟩ := by
  simp [Run.noting, h]

theorem Run.eq_of_mem_log_noting {entry e : LogEntry} {outcome : Except DispatchError Value}
    (h : e ∈ (Run.noting entry outcome).log) : e = entry := by
  unfold noting at h
  split at h
  · simp at h
  · simpa using h

/-- What becomes of a validated value: the case is noted, then its handler applied. -/
def Case.run (c : Case) (index : Nat) (v validated : Value) : Run :=
  .noting (.matched index c.schema v) ((c.handler.apply validated).mapError .fault)

/-- What becomes of a value that no schema accepts. The error shows it, and the labels of these. -/
def unmatched (v : Value) (tried : List Schema) : Run :=
  .noting (.unmatched tried.length v)
    (.error (if v.isWritable && tried.all Schema.isWritable then .noMatch v tried
      else .fault .unwritable))

/-- Tries the cases from index `n` on; `all` are all cases. -/
def dispatchFrom (v : Value) (all : List Case) (n : Nat) : List Case → Run
  | [] => unmatched v (all.map Case.schema)
  | c :: rest =>
    match c.schema.validate v with
    | .kept => c.run n v v
    | .changed w => c.run n v w
    | .rejected _ => dispatchFrom v all (n + 1) rest
    | .raised f => ⟨.error (.fault f), []⟩
    | .astray answer => ⟨.error (.noVerdict c.schema answer), []⟩

/-- Runs a value through cases in order. -/
def dispatch (v : Value) (cases : List Case) : Run := dispatchFrom v cases 0 cases

end

end ShapeMatch
