import ChromiumIos.Lib.Checked
import ChromiumIos.Lib.TextReplacing

/-!
# The text of a page and its tags

A page refers to its scripts and style sheets by tags, and a style sheet to others by imports.
They are found by a pattern with a prefix and a suffix, which is matched without regard to case
and lets as little as possible stand between the two, and are replaced as strings.

A text is its code units, and strings are found in it unit by unit, as the searches of the code
find them in texts without combining marks; a set of strings is a list of them in which none is
twice.
-/

namespace ChromiumIos

open Lib

namespace CRWWebUIPageBuilder

abbrev Text := List UInt16

def textOf (string : String) : Text := string.toList.map fun letter => UInt16.ofNat letter.toNat

def kJSTagPrefix : Text := textOf "<script src=\""
def kJSTagSuffix : Text := textOf "\"></script>"
def kCSSTagPrefix : Text := textOf "<link rel=\"stylesheet\" href=\""
def kCSSTagSuffix : Text := textOf "\">"
def kWebUIJSURL : Text := textOf "chrome://resources/js/ios/web_ui.js"

variable (text : Text)

def scriptText : Text := textOf "<script>" ++ text ++ textOf "</script>"

def styleText : Text := textOf "<style>" ++ text ++ textOf "</style>"

/-! ## Regular expressions -/

/-- The units to which a letter is folded, as far as letters of the alphabet are among them: the
Kelvin sign, the long s, the sharp s and the ligatures as well as capital letters. -/
def caseFolding (unit : UInt16) : Text :=
  if 0x41 ≤ unit ∧ unit ≤ 0x5A then [unit + 0x20]
  else if unit = 0x212A then textOf "k"
  else if unit = 0x17F then textOf "s"
  else if unit = 0xDF ∨ unit = 0x1E9E then textOf "ss"
  else if unit = 0xFB00 then textOf "ff"
  else if unit = 0xFB01 then textOf "fi"
  else if unit = 0xFB02 then textOf "fl"
  else if unit = 0xFB03 then textOf "ffi"
  else if unit = 0xFB04 then textOf "ffl"
  else if unit = 0xFB05 ∨ unit = 0xFB06 then textOf "st"
  else [unit]

/-- What does not match the dot of a regular expression. -/
def isLineTerminator (unit : UInt16) : Bool :=
  (0xA ≤ unit ∧ unit ≤ 0xD) ∨ unit = 0x85 ∨ unit = 0x2028 ∨ unit = 0x2029

def behindFolded : Text → Text → Option Text
  | [], text => some text
  | _ :: _, [] => none
  | folded, unit :: rest =>
    if caseFolding unit <+: folded then behindFolded (folded.drop (caseFolding unit).length) rest
    else none

/-- `(.*?)` and the suffix: what stands before the nearest suffix of the line, and what is behind
it. -/
def matchGroup (suffix : Text) : Text → Option (Text × Text)
  | [] => (behindFolded (suffix.flatMap caseFolding) []).map fun behind => ([], behind)
  | unit :: rest =>
    match behindFolded (suffix.flatMap caseFolding) (unit :: rest) with
    | some behind => some ([], behind)
    | none =>
      if isLineTerminator unit then none
      else (matchGroup suffix rest).map fun (group, behind) => (unit :: group, behind)

def matchTag (tagPrefix suffix text : Text) : Option (Text × Text) :=
  (behindFolded (tagPrefix.flatMap caseFolding) text).bind (matchGroup suffix)

def groupsFrom (tagPrefix suffix : Text) : Nat → Text → List Text
  | _, [] => []
  | skipped + 1, _ :: rest => groupsFrom tagPrefix suffix skipped rest
  | 0, unit :: rest =>
    match matchTag tagPrefix suffix (unit :: rest) with
    | some (group, behind) =>
      group :: groupsFrom tagPrefix suffix (rest.length - behind.length) rest
    | none => groupsFrom tagPrefix suffix 0 rest

/-- Every match asserts that its group is not empty. -/
def URLStringsFromResource (resource tagPrefix suffix : Text) : Checked (List Text) :=
  let groups := groupsFrom tagPrefix suffix 0 resource
  (dcheck (∀ group ∈ groups, group ≠ [])).map fun _ => groups.dedup

def URLStringsFromHTML (HTML : Text) : Checked (List Text) :=
  (URLStringsFromResource HTML kJSTagPrefix kJSTagSuffix).bind fun JS =>
    (URLStringsFromResource HTML kCSSTagPrefix kCSSTagSuffix).map fun CSS => (JS ++ CSS).dedup

def URLStringsFromCSS (CSS : Text) : Checked (List Text) :=
  URLStringsFromResource CSS (textOf "@import url(") (textOf ");")

theorem URLStringsFromResource_isSome {resource tagPrefix suffix : Text} :
    (URLStringsFromResource resource tagPrefix suffix).isSome = true ↔
      [] ∉ groupsFrom tagPrefix suffix 0 resource := by
  unfold URLStringsFromResource
  grind [dcheck]

theorem mem_URLStringsFromResource {resource tagPrefix suffix string : Text} {strings : List Text}
    (found : URLStringsFromResource resource tagPrefix suffix = some strings) :
    string ∈ strings ↔ string ∈ groupsFrom tagPrefix suffix 0 resource := by
  obtain ⟨_, -, rfl⟩ := Option.map_eq_some_iff.mp found
  simp

/-! ## Replacing -/

def replaceOccurrences (target replacement : Text) (range : Nat) (text : Text) : Checked Text :=
  (dcheck (range ≤ text.length)).map fun _ =>
    replaceAll target replacement (text.take range) ++ text.drop range

end CRWWebUIPageBuilder

end ChromiumIos
