import PageBridge.File.Path
import PageBridge.Url.Basic

/-!
# The file of a URL

A URL without a host whose path has segments names the file at those segments, percent encoding
undone.
-/

namespace PageBridge.Url

/-- Whether a path ends in a letter and a colon or bar, which asks for a directory. -/
def endsInDrive (p : File.Path) : Bool :=
  match p.reverse with
  | mark :: letter :: _ :: _ =>
    (mark == 0x3A || mark == 0x7C) && (Char.ofNat letter.toNat).isAlpha
  | _ => false

/-- The path of the file that a URL names, if it is a file of this machine. -/
def filePath? (url : Url) : Option File.Path :=
  match url.host, url.path with
  | none, .segments parts =>
    let p := parts.flatMap fun part => File.Path.slash :: Percent.decode part
    some (if endsInDrive p then p ++ [File.Path.slash] else p)
  | _, _ => none

end PageBridge.Url
