import ChromiumIos.Lib.Replacing
import ChromiumIos.ReadingList.URLDownloader

/-!
# The images of a saved page

When a page is saved, each of its images is written to a file, and the URL of the image
is replaced by the name of the file in the text of the page, or by nothing if the image
was not saved.
-/

namespace ChromiumIos

open Lib

/-- The texts that stand for an image: the spec of its URL, the digest that names its file, and
how text is escaped in a page. -/
structure ImageTexts (Url : Type) where
  spec : Url → List Char
  md5String : List Char → List Char
  escapeForHTML : List Char → List Char

variable {Url Directory : Type}

/-- A URL that is invalid has no spec, and the spec of another one holds the colon behind its
scheme, which is not escaped; neither quotes nor angles are left in text that is escaped, and
digests are hexadecimal. -/
structure ImageTexts.Lawful (texts : ImageTexts Url) (urls : OfflineUrls Url Directory) : Prop where
  spec_of_invalid : ∀ url, urls.isValid url = false → texts.spec url = []
  colon_mem_spec : ∀ url, urls.isValid url = true → ':' ∈ texts.spec url
  escapeForHTML_nil : texts.escapeForHTML [] = []
  colon_mem_escapeForHTML : ∀ text, ':' ∈ text → ':' ∈ texts.escapeForHTML text
  escaped : ∀ text, ∀ letter ∈ texts.escapeForHTML text, letter ∉ ['"', '\'', '<', '>']
  hexadecimal : ∀ text, ∀ letter ∈ texts.md5String text, letter ∈ "0123456789abcdef".toList

namespace URLDownloader

def kDisableImageContextMenuScript : List Char :=
  ("<script>" ++
    "document.addEventListener('DOMContentLoaded', function (event) \x7b" ++
    "    var imgMenuDisabler = document.createElement('style');" ++
    "    imgMenuDisabler.innerHTML = 'img \x7b -webkit-touch-callout: none; \x7d';" ++
    "    document.head.appendChild(imgMenuDisabler);" ++
    "\x7d, false);" ++
    "</script>").toList

theorem kDisableImageContextMenuScript_ne_nil : kDisableImageContextMenuScript ≠ [] := by
  decide +kernel

def imageRule (texts : ImageTexts Url) (urls : OfflineUrls Url Directory) (distilledUrl : Url)
    (image : ImageInfo Url) : Rule Char where
  pattern := texts.escapeForHTML (texts.spec image.url)
  name :=
    if savesImage urls distilledUrl image then texts.md5String (texts.spec image.url) else []

structure PageText (Url : Type) where
  html : List Char
  localImagesFound : Bool
  files : SavedFiles Url

variable [DecidableEq Url]

/-- The page with its images replaced and the files that are there; none if it takes more turns to
replace an image. -/
def saveAndReplaceImagesInHTML (texts : ImageTexts Url) (urls : OfflineUrls Url Directory)
    (distilledUrl : Url) (results : FileResults Url) (turns : Nat) :
    List (ImageInfo Url) → PageText Url → Option (List Char × SavedFiles Url)
  | [], page =>
    if page.localImagesFound then some (page.html ++ kDisableImageContextMenuScript, page.files)
    else some (page.html, page.files)
  | image :: rest, page =>
    if urls.schemeIsData image.url then
      saveAndReplaceImagesInHTML texts urls distilledUrl results turns rest page
    else
      match
        if savesImage urls distilledUrl image then saveImage results image page.files
        else (true, page.files) with
      | (false, files) => some ([], files)
      | (true, files) =>
        match replaceWithin (imageRule texts urls distilledUrl image) turns page.html with
        | none => none
        | some (html, found) =>
          saveAndReplaceImagesInHTML texts urls distilledUrl results turns rest
            ⟨html, page.localImagesFound || found, files⟩

section Termination

variable (texts : ImageTexts Url) (urls : OfflineUrls Url Directory) (distilledUrl : Url)
variable (results : FileResults Url)

def Terminates (images : List (ImageInfo Url)) (page : PageText Url) : Prop :=
  ∃ turns result,
    saveAndReplaceImagesInHTML texts urls distilledUrl results turns images page = some result

def CannotSave (files : SavedFiles Url) (image : ImageInfo Url) : Prop :=
  savesImage urls distilledUrl image = true ∧ image.url ∉ files.images ∧
    results.imageWritten image.url ≤ 0

/-- Among the images is one with an invalid URL, and none before it cannot be saved; images given
by their data do not count. -/
def MeetsInvalid (files : SavedFiles Url) : List (ImageInfo Url) → Prop
  | [] => False
  | image :: rest =>
    (urls.schemeIsData image.url = false ∧ urls.isValid image.url = false) ∨
      (urls.schemeIsData image.url = false → ¬ CannotSave urls distilledUrl results files image) ∧
        MeetsInvalid files rest

end Termination

variable {texts : ImageTexts Url} {urls : OfflineUrls Url Directory} {distilledUrl : Url}
variable {results : FileResults Url} {images rest : List (ImageInfo Url)} {image : ImageInfo Url}
variable {page : PageText Url} {files : SavedFiles Url} {turns : Nat}

/-! ## One image -/

def filesAfter (urls : OfflineUrls Url Directory) (distilledUrl : Url) (results : FileResults Url)
    (files : SavedFiles Url) (image : ImageInfo Url) : Bool × SavedFiles Url :=
  if savesImage urls distilledUrl image then saveImage results image files else (true, files)

theorem filesAfter_fst : (filesAfter urls distilledUrl results files image).1 = false ↔
    CannotSave urls distilledUrl results files image := by
  unfold filesAfter CannotSave saveImage
  grind

/-- An image that was saved cannot have been one that cannot be saved. -/
theorem cannotSave_filesAfter {other : ImageInfo Url} :
    CannotSave urls distilledUrl results (filesAfter urls distilledUrl results files image).2
        other ↔
      CannotSave urls distilledUrl results files other := by
  grind [CannotSave, filesAfter, saveImage]

theorem meetsInvalid_filesAfter :
    MeetsInvalid urls distilledUrl results (filesAfter urls distilledUrl results files image).2
        rest ↔
      MeetsInvalid urls distilledUrl results files rest := by
  induction rest with
  | nil => exact Iff.rfl
  | cons _ _ ih =>
    unfold MeetsInvalid
    rw [cannotSave_filesAfter, ih]

theorem saveImages_cons (notData : urls.schemeIsData image.url = false) :
    saveImages urls distilledUrl results (image :: rest) files =
      if (filesAfter urls distilledUrl results files image).1 = false then
        some (false, (filesAfter urls distilledUrl results files image).2)
      else if urls.isValid image.url then
        saveImages urls distilledUrl results rest
          (filesAfter urls distilledUrl results files image).2
      else none := by
  conv_lhs => unfold saveImages
  rw [notData]
  change (match filesAfter urls distilledUrl results files image with
    | (false, saved) => _
    | (true, saved) => _) = _
  grind

/-- The files are not done with exactly when an image with an invalid URL is come to. -/
theorem saveImages_eq_none_iff :
    saveImages urls distilledUrl results images files = none ↔
      MeetsInvalid urls distilledUrl results files images := by
  induction images generalizing files with
  | nil => simp [saveImages, MeetsInvalid]
  | cons image rest ih =>
    cases data : urls.schemeIsData image.url with
    | true =>
      have skips : saveImages urls distilledUrl results (image :: rest) files =
          saveImages urls distilledUrl results rest files := if_pos data
      rw [skips, ih]
      simp [MeetsInvalid, data]
    | false =>
      rw [saveImages_cons data]
      by_cases failed : (filesAfter urls distilledUrl results files image).1 = false
      · have cannot := filesAfter_fst.mp failed
        have valid : urls.isValid image.url = true := by
          have saves := cannot.1
          simp only [savesImage, Bool.and_eq_true] at saves
          exact saves.1.2
        simp [failed, MeetsInvalid, data, valid, cannot]
      · have can := fun cannot => failed (filesAfter_fst.mpr cannot)
        rw [if_neg failed, MeetsInvalid]
        cases valid : urls.isValid image.url with
        | false => simp [data]
        | true =>
          rw [if_pos rfl, ih, meetsInvalid_filesAfter]
          simpa using fun _ _ => can

instance : Decidable (MeetsInvalid urls distilledUrl results files images) :=
  decidable_of_iff ((saveImages urls distilledUrl results images files).isNone = true)
    (Option.isNone_iff_eq_none.trans saveImages_eq_none_iff)

/-- What becomes of an image that is not given by its data. -/
theorem saveAndReplace_cons (notData : urls.schemeIsData image.url = false) :
    saveAndReplaceImagesInHTML texts urls distilledUrl results turns (image :: rest) page =
      if (filesAfter urls distilledUrl results page.files image).1 = false then
        some ([], (filesAfter urls distilledUrl results page.files image).2)
      else
        (replaceWithin (imageRule texts urls distilledUrl image) turns page.html).bind
          fun (html, found) =>
            saveAndReplaceImagesInHTML texts urls distilledUrl results turns rest
              ⟨html, page.localImagesFound || found,
                (filesAfter urls distilledUrl results page.files image).2⟩ := by
  conv_lhs => unfold saveAndReplaceImagesInHTML
  rw [notData]
  change (match filesAfter urls distilledUrl results page.files image with
    | (false, files) => _
    | (true, files) => _) = _
  grind

theorem saveAndReplace_mono {result : List Char × SavedFiles Url} {more : Nat}
    (returned : saveAndReplaceImagesInHTML texts urls distilledUrl results turns images page =
      some result) (le : turns ≤ more) :
    saveAndReplaceImagesInHTML texts urls distilledUrl results more images page = some result := by
  induction images generalizing page with
  | nil => exact returned
  | cons image _ ih =>
    cases data : urls.schemeIsData image.url with
    | true =>
      unfold saveAndReplaceImagesInHTML at returned ⊢
      grind
    | false =>
      rw [saveAndReplace_cons data] at returned ⊢
      split at returned
      · next failed =>
          simp [failed, returned]
      · next saved =>
          obtain ⟨⟨_, _⟩, replaced, others⟩ := Option.bind_eq_some_iff.mp returned
          rw [if_neg saved, replaceWithin_mono replaced le]
          exact ih others

/-! ## Termination -/

omit [DecidableEq Url] in
theorem pattern_eq_nil_iff (lawful : texts.Lawful urls) :
    (imageRule texts urls distilledUrl image).pattern = [] ↔ urls.isValid image.url = false := by
  constructor
  · intro empty
    by_contra valid
    have colon := lawful.colon_mem_escapeForHTML _
      (lawful.colon_mem_spec _ ((Bool.not_eq_false _).mp valid))
    exact List.ne_nil_of_mem colon empty
  · intro invalid
    exact (congrArg _ (lawful.spec_of_invalid _ invalid)).trans lawful.escapeForHTML_nil

/-- The images are replaced in the end unless one with an invalid URL is come to. -/
theorem terminates_iff (texts : ImageTexts Url) (urls : OfflineUrls Url Directory)
    (lawful : texts.Lawful urls) (distilledUrl : Url) (results : FileResults Url)
    (images : List (ImageInfo Url)) (page : PageText Url) :
    Terminates texts urls distilledUrl results images page ↔
      ¬ MeetsInvalid urls distilledUrl results page.files images := by
  induction images generalizing page with
  | nil =>
    refine ⟨fun _ => id, fun _ => ⟨0, ?_⟩⟩
    unfold saveAndReplaceImagesInHTML
    split <;> exact ⟨_, rfl⟩
  | cons image rest ih =>
    cases data : urls.schemeIsData image.url with
    | true =>
      have skips : ∀ turns, saveAndReplaceImagesInHTML texts urls distilledUrl results turns
          (image :: rest) page =
            saveAndReplaceImagesInHTML texts urls distilledUrl results turns rest page :=
        fun turns => if_pos data
      refine Iff.trans ?_ ((ih page).trans ?_)
      · simp [Terminates, skips]
      · simp [MeetsInvalid, data]
    | false =>
      unfold Terminates
      simp only [saveAndReplace_cons data]
      by_cases failed : (filesAfter urls distilledUrl results page.files image).1 = false
      · have cannot := filesAfter_fst.mp failed
        refine ⟨fun _ meets => ?_, fun _ => ⟨0, _, if_pos failed⟩⟩
        rcases meets with ⟨-, invalid⟩ | ⟨can, -⟩
        · have saves := cannot.1
          simp [savesImage, invalid] at saves
        · exact can data cannot
      simp only [if_neg failed]
      have can := fun cannot => failed (filesAfter_fst.mpr cannot)
      cases valid : urls.isValid image.url with
      | false =>
        grind [MeetsInvalid, replaceWithin_of_empty ((pattern_eq_nil_iff lawful).mpr valid)]
      | true =>
        have notEmpty : (imageRule texts urls distilledUrl image).pattern ≠ [] :=
          fun empty => by cases valid.symm.trans ((pattern_eq_nil_iff lawful).mp empty)
        obtain ⟨⟨html, found⟩, replaced⟩ := Option.isSome_iff_exists.mp
          (replaceWithin_isSome notEmpty (Nat.le_refl page.html.length))
        have next := ih ⟨html, page.localImagesFound || found,
          (filesAfter urls distilledUrl results page.files image).2⟩
        rw [meetsInvalid_filesAfter] at next
        have meets : MeetsInvalid urls distilledUrl results page.files (image :: rest) ↔
            MeetsInvalid urls distilledUrl results page.files rest := by
          rw [MeetsInvalid, valid]
          grind
        rw [meets, ← next]
        constructor
        · rintro ⟨turns, result, returned⟩
          obtain ⟨⟨other, also⟩, replacedToo, others⟩ :=
            Option.bind_eq_some_iff.mp returned
          grind [Terminates, replaceWithin_mono]
        · rintro ⟨turns, result, others⟩
          refine ⟨max page.html.length turns, result, ?_⟩
          grind [replaceWithin_mono, saveAndReplace_mono]

/-- Replacing the images of a page does to the files what `saveImages` says, and leaves no text
exactly if an image could not be saved. -/
theorem saveImages_of_saveAndReplace (lawful : texts.Lawful urls) {html : List Char}
    {saved : SavedFiles Url} (text : page.html ≠ [] ∨ page.localImagesFound = true)
    (returned : saveAndReplaceImagesInHTML texts urls distilledUrl results turns images page =
      some (html, saved)) :
    saveImages urls distilledUrl results images page.files = some (decide (html ≠ []), saved) := by
  induction images generalizing page with
  | nil =>
    unfold saveAndReplaceImagesInHTML at returned
    split at returned
    · cases returned
      have written : page.html ++ kDisableImageContextMenuScript ≠ [] :=
        List.append_ne_nil_of_right_ne_nil _ kDisableImageContextMenuScript_ne_nil
      simp [saveImages, written]
    · next notFound =>
        cases returned
        simp [saveImages, text.resolve_right notFound]
  | cons image rest ih =>
    cases data : urls.schemeIsData image.url with
    | true =>
      have skips : saveImages urls distilledUrl results (image :: rest) page.files =
          saveImages urls distilledUrl results rest page.files := if_pos data
      rw [skips]
      refine ih text ?_
      unfold saveAndReplaceImagesInHTML at returned
      rwa [if_pos data] at returned
    | false =>
      rw [saveAndReplace_cons data] at returned
      rw [saveImages_cons data]
      split at returned
      · next failed =>
          cases returned
          simp [failed]
      · next kept =>
          obtain ⟨⟨next, found⟩, replaced, others⟩ := Option.bind_eq_some_iff.mp returned
          have valid : urls.isValid image.url = true := by
            by_contra invalid
            have empty : (imageRule texts urls distilledUrl image).pattern = [] :=
              (pattern_eq_nil_iff lawful).mpr ((Bool.not_eq_true _).mp invalid)
            rw [replaceWithin_of_empty empty] at replaced
            cases replaced
          rw [if_neg kept, if_pos valid]
          refine ih ?_ others
          cases found with
          | true => simp
          | false =>
            rw [replaceWithin_unfound replaced]
            simpa using text

/-! ## Plain texts -/

def escapeCharForHTML : Char → List Char
  | '<' => "&lt;".toList
  | '>' => "&gt;".toList
  | '&' => "&amp;".toList
  | '"' => "&quot;".toList
  | '\'' => "&#39;".toList
  | letter => [letter]

/-- URLs that are known by their text, and are valid if there is a scheme. -/
def plainUrls : OfflineUrls (List Char) (List Char) :=
  ⟨id, Function.injective_id, fun url => ':' ∈ url, fun url => "data:".toList <+: url,
    fun url => "https:".toList <+: url⟩

def plainTexts : ImageTexts (List Char) where
  spec url := if ':' ∈ url then url else []
  md5String text :=
    if text = "http://a/".toList then "d2e30d023bacb13655cf2f69855ddd49".toList
    else List.replicate 32 '0'
  escapeForHTML text := text.flatMap escapeCharForHTML

theorem plainTexts_lawful : plainTexts.Lawful plainUrls := by
  have escaped : ∀ sign, ∀ letter ∈ escapeCharForHTML sign, letter ∉ ['"', '\'', '<', '>'] := by
    intro sign
    unfold escapeCharForHTML
    split
    iterate 5 decide
    simp_all
  constructor
  · exact fun url invalid => if_neg (of_decide_eq_false invalid)
  · intro url valid
    have colon : ':' ∈ url := of_decide_eq_true valid
    have same : plainTexts.spec url = url := if_pos colon
    rw [same]
    exact colon
  · rfl
  · exact fun text mem => List.mem_flatMap.mpr ⟨':', mem, by decide⟩
  · intro text letter mem
    obtain ⟨sign, -, written⟩ := List.mem_flatMap.mp mem
    grind
  · intro text
    unfold plainTexts
    dsimp only
    split
    · decide
    · simp

theorem terminates_iff_saved :
    Terminates plainTexts plainUrls "http://b/".toList ⟨true, fun _ => 1, 1, 1⟩
      [⟨"http://a/".toList, [0]⟩] ⟨"\"http://a/\"".toList, false, ⟨[], 0⟩⟩ :=
  (terminates_iff plainTexts plainUrls plainTexts_lawful _ _ _ _).mpr (by decide)

/-- The URL of the image could not be parsed. -/
theorem not_terminates_invalid :
    ¬ Terminates plainTexts plainUrls "http://b/".toList ⟨true, fun _ => 1, 1, 1⟩
      [⟨[], []⟩] ⟨"<p>".toList, false, ⟨[], 0⟩⟩ := by
  rintro ⟨turns, result, returned⟩
  rw [saveAndReplace_cons (by decide), replaceWithin_of_empty rfl] at returned
  cases returned

end URLDownloader

end ChromiumIos
