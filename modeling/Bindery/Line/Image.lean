import Bindery.Unicode.Word
import Bindery.Files.Workspace

set_option autoImplicit false

/-! # Images

A line that starts with `![caption](name)` shows an image whose file is named by `name` without
extension. The file `name@2x.png` has twice the density of the screen, and on screen the image
stands in a column of 760 pixels; so on paper it takes its share of twice that width. -/

namespace Bindery

/-! ## Width on the page -/

/-- How many image pixels make a screen pixel. -/
def retinaScale : Nat := 2

/-- The width of the screen column in screen pixels. -/
def columnWidth : Nat := 760

/-- The width on the page, in percent, of an image that is `width` pixels wide; rounded down. -/
def scalePercentage (width : Nat) : Nat := width * 100 / (retinaScale * columnWidth)

/-- The file of the image with the given name. -/
def retinaFileName (name : Text) : Text := name ++ ['@', '2', 'x', '.', 'p', 'n', 'g']

/-! ## The head of a PNG file -/

/-- The bytes every PNG file starts with. -/
def pngSignature : Bytes := [0x89, 0x50, 0x4E, 0x47, 0x0D, 0x0A, 0x1A, 0x0A]

/-- The tag of the chunk that holds the dimensions, in ASCII `IHDR`. -/
def dimensionsTag : Bytes := [0x49, 0x48, 0x44, 0x52]

/-- The number of bytes up to the end of the dimensions. -/
def pngHeadLength : Nat := 24

/-- The number written in bytes, the highest first. -/
def bigEndian (bytes : Bytes) : Nat := bytes.foldl (fun n b => n * 256 + b.toNat) 0

/-- The width in pixels, if the bytes are the head of a PNG file. -/
def pngWidth (bytes : Bytes) : Option Nat :=
  if pngHeadLength ≤ bytes.length ∧ bytes.take 8 = pngSignature ∧
      (bytes.drop 12).take 4 = dimensionsTag then
    some (bigEndian ((bytes.drop 16).take 4))
  else none

/-! ## Image files -/

/-- Why an image cannot be used. -/
inductive AssetFault where
  | os (error : OsError)
  | notPng
  deriving DecidableEq, Repr

/-- The words for it. -/
def AssetFault.message : AssetFault → Text
  | .os error => error.message
  | .notPng => "not a PNG image".toList

/-- An image file that cannot be used, and why. -/
structure MissingAsset where
  path : Path
  fault : AssetFault
  deriving DecidableEq, Repr

/-- The words for it. -/
def MissingAsset.message (m : MissingAsset) : Text :=
  "Missing image asset ".toList ++ m.path ++ ": ".toList ++ m.fault.message

/-- The directory of image files. -/
structure Assets where
  files : Workspace
  folder : Path
  deriving DecidableEq, Repr

namespace Assets

/-- The width in pixels of an image file. -/
def widthOf (assets : Assets) (fileName : Text) : Except MissingAsset Nat :=
  let path := Path.join assets.folder fileName
  match assets.files.read path with
  | .error e => .error ⟨path, .os e⟩
  | .ok content =>
    match pngWidth (content.take pngHeadLength) with
    | some width => .ok width
    | none => .error ⟨path, .notPng⟩

/-- The width on the page, in percent, of an image file. -/
def scaleOf (assets : Assets) (fileName : Text) : Except MissingAsset Nat :=
  (assets.widthOf fileName).map scalePercentage

end Assets

/-! ## Image references -/

/-- The characters an image name is made of. -/
def isImageNameChar (c : Char) : Bool := isWord c || c == '-'

/-- A line that starts with an image reference. -/
structure ImageLine where
  caption : Text
  name : Text
  rest : Text
  deriving DecidableEq, Repr

/-- Takes a line apart that starts with `![caption](name)`. The caption ends at the first `]`. -/
def imageLine? (line : Text) : Option ImageLine :=
  match Text.after? ['!', '['] line with
  | none => none
  | some rest =>
    match Text.after? [']', '('] (rest.dropWhile (· ≠ ']')) with
    | none => none
    | some inner =>
      match inner.takeWhile isImageNameChar, inner.dropWhile isImageNameChar with
      | n :: name, ')' :: behind => some ⟨rest.takeWhile (· ≠ ']'), n :: name, behind⟩
      | _, _ => none

/-- The line that shows the image file at its width on the page. -/
def ImageLine.render (image : ImageLine) (percent : Nat) : Text :=
  ['!', '['] ++ image.caption ++ [']', '('] ++ retinaFileName image.name ++
    ")\x7b width=".toList ++ Text.ofNat percent ++ "% \x7d".toList ++ image.rest

/-- Gives the image that a line starts with its file name and width. -/
def resolveImage (assets : Assets) (line : Text) : Except MissingAsset Text :=
  match imageLine? line with
  | none => .ok line
  | some image => (assets.scaleOf (retinaFileName image.name)).map image.render

end Bindery
