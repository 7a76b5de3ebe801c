import Chip8.Files.Path
import Chip8.Picture
import Chip8.Text.Ascii

/-!
# Picture formats

The format in which a picture is saved is told by the extension of its path. Not
every format that is known can be written: some have no colours, and some are
known for reading alone. Others do not take every name, or every size.

* `FormatError` — why a picture is not written although its format is known
* `PictureFormat.ofExtension?` — what becomes of pictures in the format of an extension
* `PictureFormat.ofPath?` — what becomes of a picture that is saved at a path
-/

namespace Chip8

/-- Why writing a picture fails although there is a way to write its format. -/
inductive FormatError where
  /-- The format is not for pictures in full colour. -/
  | fullColour (format : String)
  /-- The format is written by a part that is not installed. -/
  | notInstalled (format : String)
  /-- The format is for pictures with a palette. -/
  | noPalette (format : String)
  /-- The header of the format cannot hold the name of the file. -/
  | name (e : NotAscii)
  /-- A side of the picture is longer than the format allows. -/
  | sideTooLong
deriving DecidableEq, Repr

/-- The report of a picture that is not written. -/
def FormatError.message : FormatError → String
  | fullColour format => "cannot write mode RGB as " ++ format
  | notInstalled format => format ++ " save handler not installed"
  | noPalette format => "Unsupported " ++ format ++ " image mode"
  | name e => e.message
  | sideTooLong => "encoding error 5: Image size exceeds WebP limit of 16383 pixels"

/-- Whether an error is told as one of the file, and not as one of the program. -/
def FormatError.isOfFile : FormatError → Bool
  | fullColour _ | notInstalled _ => true
  | noPalette _ | name _ | sideTooLong => false

/-- What becomes of a picture that is saved in a format. -/
inductive PictureFormat where
  /-- It is written. -/
  | written
  /-- There is no way to write it: the format can only be read. -/
  | readOnly
  /-- Its file is opened, and then it is not written. -/
  | refused (e : FormatError)
deriving DecidableEq, Repr

namespace PictureFormat

/-- The extensions of the formats in which pictures are written. -/
def writtenExtensions : List String :=
  [".png", ".apng", ".bmp", ".dib", ".gif", ".jpg", ".jpeg", ".jpe", ".jfif", ".tif", ".tiff",
   ".webp", ".avif", ".avifs", ".ppm", ".pgm", ".pbm", ".pnm", ".pfm", ".ico", ".icns", ".im",
   ".pcx", ".tga", ".icb", ".vda", ".vst", ".sgi", ".bw", ".rgb", ".rgba", ".jp2", ".j2k",
   ".jpc", ".jpf", ".jpx", ".j2c", ".mpo", ".dds", ".eps", ".ps", ".pdf", ".qoi"]

/-- The extensions of the formats that can only be read. -/
def readOnlyExtensions : List String :=
  [".cur", ".dcx", ".fit", ".fits", ".fli", ".flc", ".ftc", ".ftu", ".gbr", ".iim", ".mpg",
   ".mpeg", ".pcd", ".pxr", ".psd", ".ras", ".xpm"]

/-- The extensions of the formats in which writing fails, and why. -/
def refusedExtensions : List (String × FormatError) :=
  [(".xbm", .fullColour "XBM"), (".palm", .fullColour "Palm"), (".msp", .fullColour "MSP"),
   (".bufr", .notInstalled "BUFR"), (".grib", .notInstalled "GRIB"),
   (".h5", .notInstalled "HDF5"), (".hdf", .notInstalled "HDF5"),
   (".wmf", .notInstalled "WMF"), (".emf", .notInstalled "WMF"), (".blp", .noPalette "BLP")]

/-- What becomes of pictures under an extension, if it is that of a format. -/
def ofExtension? (extension : String) : Option PictureFormat :=
  if writtenExtensions.contains extension then some .written
  else if readOnlyExtensions.contains extension then some .readOnly
  else (refusedExtensions.lookup extension).map .refused

/-- The extension of the format whose header holds the name of the file. -/
def namedExtension : String := ".im"

/-- The most characters of a name in a header, whose lines have no more than a hundred. -/
def maxName : Nat := 92

/-- The line of a header that holds the name of the file at a path. A name that is too long
is cut before its extension. -/
def nameLine (path : String) : List Char :=
  let (stem, suffix) := Path.stemAndSuffix path
  "Name: ".toList ++ stem.take (maxName - suffix.length) ++ suffix

/-- The extension of the format whose pictures have short sides. -/
def shortExtension : String := ".webp"

/-- The longest side of a picture in that format. -/
def maxShortSide : Nat := 16383

/-- What becomes of a picture that is saved at a path, if the extension of the path is that
of a format. -/
def ofPath? (path : String) (p : Picture) : Option PictureFormat :=
  let extension := Path.extension path
  if extension = namedExtension then
    some <| match Ascii.offence? (nameLine path) with
      | none => .written
      | some e => .refused (.name e)
  else if extension = shortExtension ∧ maxShortSide < max p.width p.height then
    some (.refused .sideTooLong)
  else ofExtension? extension

end PictureFormat

end Chip8
