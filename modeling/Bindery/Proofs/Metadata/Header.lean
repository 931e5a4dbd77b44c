import Bindery.Proofs.Metadata.Mapping
import Bindery.Settings.Basic

set_option autoImplicit false

/-! # The metadata of a book

The metadata of a book is put together twice: the settings lay their entries over the defaults, and
the header lays what comes of it behind the title and the date, which it takes from the book alone.
`metadata_of_settings` says what is written in the end, entry by entry. -/

namespace Bindery

open Mapping

/-- What the book itself says about itself. -/
def bookMetadata (title date : Text) : Mapping :=
  [(.text "title".toList, .text title), (.text "date".toList, .text date)]

namespace Header

theorem isReserved_iff {key : Value} :
    isReserved key = true ↔ key = .text "title".toList ∨ key = .text "date".toList := by
  cases key with
  | text key => simp [isReserved, reservedKeys]
  | _ => simp [isReserved]

/-- The keys of the book's own entries are the reserved ones. -/
theorem get?_bookMetadata_eq_none_iff {key : Value} (title date : Text) :
    get? key (bookMetadata title date) = none ↔ isReserved key = false := by
  rw [← Bool.not_eq_true, isReserved_iff, get?_eq_none_iff, bookMetadata]
  simp only [List.forall_mem_cons, List.not_mem_nil, false_implies, implies_true, and_true,
    ← Bool.not_eq_true, Value.text_same_iff, not_or]

theorem hasDistinctKeys_bookMetadata (title date : Text) :
    HasDistinctKeys (bookMetadata title date) := by
  refine List.pairwise_pair.2 ?_
  rw [← Bool.not_eq_true, Value.text_same_iff, Value.text.injEq]
  decide

/-- The header writes the title and the date of the book, then the fields with other keys in their
order. -/
theorem metadata_eq {fields : Mapping} (h : HasDistinctKeys fields) (title date : Text) :
    (Header.mk title date fields).metadata =
      bookMetadata title date ++ fields.filter fun entry => !isReserved entry.1 := by
  refine insertAll_eq_append (h.filter _) (hasDistinctKeys_bookMetadata title date) ?_
  intro entry hentry
  rw [← bookMetadata, get?_bookMetadata_eq_none_iff]
  simpa using (List.mem_filter.1 hentry).2

end Header

/-! ## The defaults -/

theorem hasDistinctKeys_defaultMetadata : HasDistinctKeys defaultMetadata := by
  decide

theorem not_isReserved_of_mem_defaultMetadata :
    ∀ entry ∈ defaultMetadata, Header.isReserved entry.1 = false := by
  decide

/-- Neither laying entries over the defaults nor laying them behind the title and the date makes a
key stand twice. The metadata of a book opens with the title and the date of the book; the defaults
follow in their order, with the values that the settings give their keys, and then the entries of
the settings with other keys in theirs. Any other fields are kept in the same way. -/
theorem metadata_of_settings (settings : Settings) (title date : Text)
    (h : HasDistinctKeys settings.header) :
    (Header.mk title date settings.metadata).metadata =
        bookMetadata title date ++ updated settings.header defaultMetadata ++
          (added settings.header defaultMetadata).filter (fun entry =>
            !Header.isReserved entry.1) ∧
      HasDistinctKeys (Header.mk title date settings.metadata).metadata ∧
      (Header.mk title date settings.metadata).lines =
        headerDelimiter ::
          Text.lines (Header.mk title date settings.metadata).metadata.write ++ [headerDelimiter] ∧
      ∀ fields, HasDistinctKeys fields →
        (Header.mk title date fields).metadata =
          bookMetadata title date ++ fields.filter fun entry => !Header.isReserved entry.1 := by
  have hmerged : settings.metadata =
      updated settings.header defaultMetadata ++ added settings.header defaultMetadata :=
    insertAll_eq h hasDistinctKeys_defaultMetadata
  have hdistinct : HasDistinctKeys settings.metadata :=
    hasDistinctKeys_defaultMetadata.insertAll settings.header
  have hkept : (updated settings.header defaultMetadata).filter (fun entry =>
      !Header.isReserved entry.1) = updated settings.header defaultMetadata := by
    refine List.filter_eq_self.2 ?_
    intro entry hentry
    obtain ⟨default, hdefault, rfl⟩ := List.mem_map.1 hentry
    simp [not_isReserved_of_mem_defaultMetadata default hdefault]
  refine ⟨?_, ?_, rfl, fun fields hfields => Header.metadata_eq hfields title date⟩
  · rw [Header.metadata_eq hdistinct, hmerged, List.filter_append, hkept, List.append_assoc]
  · exact (Header.hasDistinctKeys_bookMetadata title date).insertAll _

/-- Settings that try to set the title, change a default and add two entries. -/
def noteSettings : Settings where
  header :=
    [(.text "title".toList, .text "Other".toList), (.int 3, .null),
      (.text "toc".toList, .bool false), (.text "note".toList, .bool true)]

theorem metadata_of_settings_note :
    HasDistinctKeys noteSettings.header ∧
      (Header.mk "Book".toList "today".toList noteSettings.metadata).metadata =
        (.text "title".toList, .text "Book".toList) :: (.text "date".toList, .text "today".toList) ::
          (.text "toc".toList, .bool false) :: defaultMetadata.tail ++
            [(.int 3, .null), (.text "note".toList, .bool true)] := by
  have hdistinct : HasDistinctKeys noteSettings.header := by
    decide
  obtain ⟨hmetadata, -⟩ :=
    metadata_of_settings noteSettings "Book".toList "today".toList hdistinct
  exact ⟨hdistinct, hmetadata.trans (by rfl)⟩

end Bindery
