import Bindery.Index.Basic

set_option autoImplicit false

/-! # What the index answers

Everything that is asked of the index rests on `get?`. A record is `resolve`d when there is one, and
a title is found when the record has one; otherwise the error names the identifier that was asked
for. -/

namespace Bindery

namespace Index

variable {index : Index} {identifier : Text} {record : Record} {e : IndexError}

theorem identifier_of_get? (h : index.get? identifier = some record) :
    record.identifier = identifier := by
  simpa using List.find?_some h

theorem mem_of_get? (h : index.get? identifier = some record) : record ∈ index.records :=
  List.mem_of_find?_eq_some h

theorem resolve_eq_ok_iff : index.resolve identifier = .ok record ↔
    index.get? identifier = some record := by
  unfold resolve
  cases index.get? identifier <;> simp

theorem resolve_eq_error_iff : index.resolve identifier = .error e ↔
    index.get? identifier = none ∧ e = .unresolved identifier := by
  unfold resolve
  cases index.get? identifier <;> simp [eq_comm]

theorem titleFor_eq_ok_iff {title : Text} : index.titleFor identifier = .ok title ↔
    ∃ record, index.get? identifier = some record ∧ record.title = some title := by
  unfold titleFor resolve
  cases index.get? identifier with
  | none => simp
  | some record => cases htitle : record.title <;> simp [htitle]

/-- A title is missing because its document is not known or has none. -/
theorem titleFor_eq_error_iff : index.titleFor identifier = .error e ↔
    index.get? identifier = none ∧ e = .unresolved identifier ∨
      ∃ record, index.get? identifier = some record ∧ record.title = none ∧
        e = .untitled identifier := by
  unfold titleFor resolve
  cases hget : index.get? identifier with
  | none => simp [eq_comm]
  | some record =>
    cases htitle : record.title with
    | some title => simp [htitle]
    | none => simp [htitle, identifier_of_get? hget, eq_comm]

/-- The second index has all records of the first. -/
def Extends (index index' : Index) : Prop :=
  ∀ identifier record, index.get? identifier = some record → index'.get? identifier = some record

theorem Extends.refl (index : Index) : index.Extends index := fun _ _ h => h

end Index

end Bindery
