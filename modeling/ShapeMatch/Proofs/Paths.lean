import ShapeMatch.Proofs.Writable

/-! Paths: the keys and indexes by which a failure says where in a value it was found. -/

namespace ShapeMatch.Value

/-- What a value holds under a key or at an index, which is no value if there is nothing. -/
def step : Value → Value → Value
  | .sequence _ vs, .int (.ofNat i) => vs.getD i .undefined
  | .mapping _ es, key => Entries.valueOf key es
  | _, _ => .undefined

/-- What a path leads to. -/
def follow (v : Value) : List Value → Value
  | [] => v
  | key :: path => (v.step key).follow path

theorem isWritable_step {v : Value} (h : v.isWritable) (key : Value) : (v.step key).isWritable := by
  unfold step
  split
  · rename_i vs i
    rw [List.getD_eq_getElem?_getD]
    cases hi : vs[i]? with
    | none => rfl
    | some u => exact isWritable_of_mem_sequence h (List.mem_of_getElem? hi)
  · exact isWritable_valueOf h key
  · rfl

theorem isWritable_follow {v : Value} (h : v.isWritable) (path : List Value) :
    (v.follow path).isWritable := by
  induction path generalizing v with
  | nil => exact h
  | cons key path ih => exact ih (isWritable_step h key)

end ShapeMatch.Value
