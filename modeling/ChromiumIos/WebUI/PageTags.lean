import ChromiumIos.WebUI.PageText

/-!
# The tags of a page

A page is cut at the tags that the patterns find in it from the start.  A tag is opened by an angle
that no slash follows, and has no other angle but that of the end of a script.  Therefore what is
put in the place of a tag does not make up a tag with what is around it.
-/

namespace ChromiumIos

open Lib

namespace CRWWebUIPageBuilder

abbrev lessThanSign : UInt16 := 0x3C
abbrev quotationMark : UInt16 := 0x22
abbrev solidus : UInt16 := 0x2F

inductive TagKind where
  | script
  | stylesheet
deriving DecidableEq

variable {otherKind : TagKind} {behind part text : Text} (kind : TagKind)

namespace TagKind

def tagPrefix : TagKind → Text
  | script => kJSTagPrefix
  | stylesheet => kCSSTagPrefix

def suffix : TagKind → Text
  | script => kJSTagSuffix
  | stylesheet => kCSSTagSuffix

def inlinedText : TagKind → Text → Text
  | script => scriptText
  | stylesheet => styleText

def linkTag (kind : TagKind) (URLString : Text) : Text :=
  kind.tagPrefix ++ URLString ++ kind.suffix

def matchAt (kind : TagKind) (text : Text) : Option (Text × Text) :=
  matchTag kind.tagPrefix kind.suffix text

end TagKind

inductive Piece where
  | unit (unit : UInt16)
  | tag (kind : TagKind) (spelling URLString : Text)
deriving DecidableEq

def Piece.spelled : Piece → Text
  | .unit letter => [letter]
  | .tag _ spelling _ => spelling

def piecesFrom : Nat → Text → List Piece
  | _, [] => []
  | skipped + 1, _ :: rest => piecesFrom skipped rest
  | 0, unit :: rest =>
    match TagKind.script.matchAt (unit :: rest) with
    | some (group, behind) =>
      .tag .script (unit :: rest.take (rest.length - behind.length)) group ::
        piecesFrom (rest.length - behind.length) rest
    | none =>
      match TagKind.stylesheet.matchAt (unit :: rest) with
      | some (group, behind) =>
        .tag .stylesheet (unit :: rest.take (rest.length - behind.length)) group ::
          piecesFrom (rest.length - behind.length) rest
      | none => .unit unit :: piecesFrom 0 rest

def pieces (HTML : Text) : List Piece := piecesFrom 0 HTML

/-- The pieces together are the text. -/
theorem piecesFrom_flatMap (skipped : Nat) (text : Text) :
    (piecesFrom skipped text).flatMap Piece.spelled = text.drop skipped := by
  induction text generalizing skipped with
  | nil =>
    rw [List.drop_nil]
    cases skipped <;> rfl
  | cons _ _ ih =>
    cases skipped with
    | succ skipped => exact ih skipped
    | zero =>
      unfold piecesFrom
      split
      · simp [ih, Piece.spelled]
      · split
        · simp [ih, Piece.spelled]
        · rw [List.flatMap_cons, ih]
          rfl

/-- No tag starts at a unit between the tags. -/
theorem matchAt_of_unit {skipped : Nat} {before after : List Piece} {unit : UInt16}
    (split : piecesFrom skipped text = before ++ .unit unit :: after) (kind : TagKind) :
    kind.matchAt (unit :: after.flatMap Piece.spelled) = none := by
  induction text generalizing skipped before with
  | nil =>
    have empty : piecesFrom skipped [] = [] := by cases skipped <;> rfl
    rw [empty] at split
    simp at split
  | cons _ _ ih =>
    cases skipped with
    | succ _ => exact ih split
    | zero =>
      unfold piecesFrom at split
      split at split
      · cases before with
        | nil => simp at split
        | cons _ _ => exact ih (List.cons.inj split).2
      · next noScript =>
          split at split
          · cases before with
            | nil => simp at split
            | cons _ _ => exact ih (List.cons.inj split).2
          · next noStylesheet =>
              cases before with
              | cons _ _ => exact ih (List.cons.inj split).2
              | nil =>
                obtain ⟨same, rfl⟩ := List.cons.inj split
                cases same
                rw [piecesFrom_flatMap, List.drop_zero]
                cases kind with
                | script => exact noScript
                | stylesheet => exact noStylesheet

/-! ## Tags that are found -/

theorem caseFolding_ne_nil (unit : UInt16) : caseFolding unit ≠ [] := by
  unfold caseFolding
  repeat' split
  all_goals exact List.cons_ne_nil _ _

theorem behindFolded_append (string text : Text) :
    behindFolded (string.flatMap caseFolding) (string ++ text) = some text := by
  induction string with
  | nil =>
    unfold behindFolded
    rfl
  | cons unit _ ih =>
    obtain ⟨_, _, cons⟩ := List.exists_cons_of_ne_nil (caseFolding_ne_nil unit)
    rw [List.flatMap_cons, List.cons_append, cons, List.cons_append]
    simp [behindFolded, cons, ih]

theorem matchGroup_isSome_of_suffix {suffix : Text}
    (found : behindFolded (suffix.flatMap caseFolding) text = some behind) :
    (matchGroup suffix text).isSome = true := by
  unfold matchGroup
  grind

variable {URLString : Text}

theorem matchGroup_isSome {suffix rest : Text}
    (oneLine : ∀ unit ∈ URLString, isLineTerminator unit = false) :
    (matchGroup suffix (URLString ++ (suffix ++ rest))).isSome = true := by
  induction URLString with
  | nil => exact matchGroup_isSome_of_suffix (behindFolded_append suffix rest)
  | cons _ _ ih =>
    have later := ih fun other mem => oneLine other (List.mem_cons_of_mem _ mem)
    rw [List.cons_append]
    unfold matchGroup
    grind

/-- A tag with a URL on one line is found where it stands. -/
theorem matchAt_isSome {kind : TagKind}
    (oneLine : ∀ unit ∈ URLString, isLineTerminator unit = false)
    (starts : kind.linkTag URLString <+: text) : (kind.matchAt text).isSome = true := by
  obtain ⟨_, rfl⟩ := starts
  simpa [TagKind.matchAt, TagKind.linkTag, matchTag, behindFolded_append]
    using matchGroup_isSome oneLine

/-! ## Angles -/

/-- A text that is put in the place of a tag is opened by an angle without a slash. -/
def Opens (text : Text) : Prop :=
  ∃ letter rest, text = lessThanSign :: letter :: rest ∧ letter ≠ solidus

def ClosesScript (text : Text) : Prop :=
  ∀ before behind, text = before ++ lessThanSign :: behind →
    lessThanSign :: behind = textOf "</script>"

/-- A URL as it is written in a tag: on one line, without quotation marks and angles. -/
structure CleanURL (URLString : Text) : Prop where
  quotes : quotationMark ∉ URLString
  angles : lessThanSign ∉ URLString
  oneLine : ∀ unit ∈ URLString, isLineTerminator unit = false

theorem ClosesScript.tail {letter : UInt16} (closes : ClosesScript (letter :: text)) :
    ClosesScript text :=
  fun before behind same => closes (letter :: before) behind (congrArg _ same)

theorem ClosesScript.of_suffix (closes : ClosesScript text) (suffix : part <:+ text) :
    ClosesScript part := by
  obtain ⟨before, rfl⟩ := suffix
  intro more behind same
  exact closes (before ++ more) behind (by rw [same, List.append_assoc])

/-- Angles only come with what follows a text without any. -/
theorem closesScript_append (none : lessThanSign ∉ text) (closes : ClosesScript behind) :
    ClosesScript (text ++ behind) := by
  induction text with
  | nil => exact closes
  | cons _ _ ih =>
    intro before rest same
    cases before with
    | nil => grind
    | cons _ before =>
      exact ih (List.not_mem_of_not_mem_cons none) before rest (List.cons.inj same).2

theorem closesScript_script : ClosesScript (textOf "</script>") := by
  intro before behind same
  cases before with
  | nil => exact same.symm
  | cons _ _ =>
    have inside : lessThanSign ∈ (textOf "</script>").tail := by
      rw [same]
      simp
    exact absurd inside (by decide)

def tagBody (kind : TagKind) (URLString : Text) : Text :=
  kind.tagPrefix.tail ++ URLString ++ kind.suffix

theorem linkTag_eq_cons (URLString : Text) :
    kind.linkTag URLString = lessThanSign :: tagBody kind URLString := by
  cases kind <;> rfl

theorem tagBody_eq_cons (URLString : Text) :
    ∃ letter rest, tagBody kind URLString = letter :: rest ∧ letter ≠ solidus := by
  cases kind <;> exact ⟨_, _, rfl, by decide⟩

theorem opens_linkTag (URLString : Text) : Opens (kind.linkTag URLString) := by
  obtain ⟨letter, rest, body, other⟩ := tagBody_eq_cons kind URLString
  exact ⟨letter, rest, by rw [linkTag_eq_cons, body], other⟩

theorem opens_inlinedText (text : Text) : Opens (kind.inlinedText text) := by
  cases kind <;> exact ⟨_, _, rfl, by decide⟩

theorem closesScript_tagBody (clean : CleanURL URLString) (kind : TagKind) :
    ClosesScript (tagBody kind URLString) := by
  unfold tagBody
  rw [List.append_assoc]
  cases kind with
  | script =>
    have ending : TagKind.script.suffix = textOf "\">" ++ textOf "</script>" := by decide
    rw [ending, ← List.append_assoc, ← List.append_assoc]
    refine closesScript_append ?_ closesScript_script
    simp only [List.mem_append, not_or]
    exact ⟨⟨by decide, clean.angles⟩, by decide⟩
  | stylesheet =>
    rw [← List.append_assoc]
    rw [← List.append_nil (_ ++ _ ++ _)]
    refine closesScript_append ?_ fun before behind same => ?_
    · simp only [List.mem_append, not_or]
      exact ⟨⟨by decide, clean.angles⟩, by decide⟩
    · simp at same

/-! ## A page with other texts in place of its tags -/

def shown (tagText : TagKind → Text → Text) : Piece → Text
  | .unit letter => [letter]
  | .tag kind _ URLString => tagText kind URLString

variable {tagText other : TagKind → Text → Text} {page : List Piece} {text rest : Text}

/-- What closes a script at most is found between the tags, where it does not depend on what is in
their places. -/
theorem prefix_shown (closes : ClosesScript text)
    (opens : ∀ kind spelling URLString, .tag kind spelling URLString ∈ page →
      Opens (tagText kind URLString))
    (starts : text <+: page.flatMap (shown tagText)) : text <+: page.flatMap (shown other) := by
  induction page generalizing text with
  | nil =>
    cases List.prefix_nil.mp starts
    exact List.nil_prefix
  | cons piece _ _ =>
    cases text with
    | nil => exact List.nil_prefix
    | cons first text =>
      rw [List.flatMap_cons] at starts ⊢
      cases piece with
      | unit _ =>
        grind [shown, closes.tail]
      | tag kind _ URLString =>
        obtain ⟨letter, more, opened, other⟩ := opens _ _ _ List.mem_cons_self
        change first :: text <+: tagText kind URLString ++ _ at starts
        rw [opened] at starts
        obtain ⟨rfl, later⟩ := List.cons_prefix_cons.mp starts
        have closing : text = solidus :: textOf "script>" :=
          (List.cons.inj (closes [] text rfl)).2
        grind

/-- The text of a place does not contain a tag, unless it is this tag as a whole. -/
def Shields (tag text : Text) : Prop :=
  ∀ part rest, part <:+ text → part ≠ [] → tag <+: part ++ rest → part = text ∧ text = tag

/-- The first marks of two texts that start alike are at the same place. -/
theorem eq_of_prefix_of_mark {mark : UInt16} {first second more : Text} (left : mark ∉ first)
    (right : mark ∉ second) (starts : first ++ mark :: behind <+: second ++ mark :: more) :
    first = second := by
  induction first generalizing second with
  | nil =>
    cases second with
    | nil => rfl
    | cons _ _ =>
      grind
  | cons _ _ _ =>
    cases second with
    | nil | cons other second =>
      grind

/-- A text starts with one tag at most. -/
theorem linkTag_inj {other : Text} (clean : CleanURL URLString) (cleanOther : CleanURL other)
    {kind : TagKind} (starts : kind.linkTag URLString <+: otherKind.linkTag other ++ rest) :
    kind = otherKind ∧ URLString = other := by
  have sameKind : kind = otherKind := by
    cases kind <;> cases otherKind
    · rfl
    · exact absurd (List.cons_prefix_cons.mp (List.cons_prefix_cons.mp starts).2).1 (by decide)
    · exact absurd (List.cons_prefix_cons.mp (List.cons_prefix_cons.mp starts).2).1 (by decide)
    · rfl
  subst sameKind
  refine ⟨rfl, ?_⟩
  unfold TagKind.linkTag at starts
  rw [List.append_assoc, List.append_assoc, List.append_assoc,
    List.prefix_append_right_inj] at starts
  obtain ⟨more, mark⟩ : ∃ more, kind.suffix = quotationMark :: more := by
    cases kind <;> exact ⟨_, rfl⟩
  rw [mark] at starts
  exact eq_of_prefix_of_mark clean.quotes cleanOther.quotes starts

/-- No tag starts in what closes a script at most. -/
theorem not_linkTag_prefix (closes : ClosesScript part) (some : part ≠ []) (kind : TagKind)
    (URLString : Text) : ¬ kind.linkTag URLString <+: part ++ rest := by
  intro starts
  obtain ⟨letter, more, body, other⟩ := opens_linkTag kind URLString
  rw [body] at starts
  cases part with
  | nil => exact some rfl
  | cons _ part =>
    obtain ⟨rfl, later⟩ := List.cons_prefix_cons.mp starts
    have closing : part = solidus :: textOf "script>" :=
      (List.cons.inj (closes [] part rfl)).2
    grind

theorem shields_linkTag {other : Text} (clean : CleanURL URLString) (cleanOther : CleanURL other)
    (kind otherKind : TagKind) : Shields (kind.linkTag URLString) (otherKind.linkTag other) := by
  intro part rest suffix some starts
  rw [linkTag_eq_cons otherKind] at suffix
  rcases List.suffix_cons_iff.mp suffix with rfl | inside
  · grind [linkTag_eq_cons, linkTag_inj]
  · have closes := (closesScript_tagBody cleanOther otherKind).of_suffix inside
    exact absurd starts ( not_linkTag_prefix closes some kind URLString)

def HasNoTags (text : Text) : Prop :=
  ∀ part, part <:+ text → ∀ kind : TagKind, kind.matchAt part = none

def ending : TagKind → Text
  | .script => textOf "</script>"
  | .stylesheet => textOf "</style>"

theorem exists_inlinedText_eq (text : Text) :
    ∃ before, kind.inlinedText text = before ++ ending kind := by
  cases kind <;> exact ⟨_, rfl⟩

/-- What closes a script at most does not go beyond an end. -/
theorem prefix_ending (closes : ClosesScript text) (kind : TagKind)
    (starts : text <+: part ++ (ending kind ++ rest)) : text <+: part ++ ending kind := by
  induction part generalizing text with
  | nil =>
    cases text with
    | nil => exact List.nil_prefix
    | cons first text =>
      obtain ⟨more, opened⟩ : ∃ more, ending kind = lessThanSign :: more := by
        cases kind <;> exact ⟨_, rfl⟩
      have first : first = lessThanSign := by
        grind
      subst first
      have closing := closes [] text rfl
      rw [closing] at starts ⊢
      cases kind with
      | script => exact List.prefix_rfl
      | stylesheet =>
        simp [textOf, ending] at starts
  | cons _ _ _ =>
    cases text with
    | nil => exact List.nil_prefix
    | cons _ _ =>
      grind [closes.tail]

/-- No tag starts in an end. -/
theorem not_linkTag_prefix_ending {endKind : TagKind} (inside : part <:+ ending endKind)
    (some : part ≠ []) (kind : TagKind) (URLString : Text) :
    ¬ kind.linkTag URLString <+: part ++ rest := by
  obtain ⟨more, opened, none⟩ : ∃ more, ending endKind = lessThanSign :: solidus :: more ∧
      lessThanSign ∉ solidus :: more := by
    cases endKind <;> exact ⟨_, rfl, by decide⟩
  rw [opened] at inside
  rcases List.suffix_cons_iff.mp inside with rfl | inside
  · intro starts
    obtain ⟨letter, body, tag, other⟩ := opens_linkTag kind URLString
    grind
  · refine not_linkTag_prefix (fun before behind same => ?_) some kind URLString
    grind [inside.subset]

theorem shields_inlinedText (clean : CleanURL URLString) (kind : TagKind)
    (noTags : HasNoTags (otherKind.inlinedText text)) :
    Shields (kind.linkTag URLString) (otherKind.inlinedText text) := by
  intro part rest suffix some starts
  obtain ⟨before, ended⟩ := exists_inlinedText_eq otherKind text
  have within : kind.linkTag URLString <+: part := by
    have ends : ending otherKind <:+ otherKind.inlinedText text := ⟨before, ended.symm⟩
    rcases List.suffix_or_suffix_of_suffix suffix ends with inside | ⟨more, rfl⟩
    · exact absurd starts (not_linkTag_prefix_ending inside some kind URLString)
    · cases more with
      | nil =>
        grind [not_linkTag_prefix_ending]
      | cons _ _ =>
        grind [linkTag_eq_cons, prefix_ending, closesScript_tagBody]
  have found := matchAt_isSome clean.oneLine within
  rw [noTags part suffix kind] at found
  cases found

/-! ## Replacing a tag -/

def ClearBetween (page : List Piece) : Prop :=
  ∀ before letter after, page = before ++ .unit letter :: after →
    ∀ (kind : TagKind) (URLString : Text), CleanURL URLString →
      ¬ kind.linkTag URLString <+: letter :: after.flatMap (shown TagKind.linkTag)

theorem ClearBetween.tail {piece : Piece} (clear : ClearBetween (piece :: page)) :
    ClearBetween page :=
  fun before letter after same => clear (piece :: before) letter after (congrArg _ same)

/-- Replacing a tag leaves everything as it is but the places with the tag. -/
theorem replaceAll_shown {kind : TagKind} {replacement : Text} (clean : CleanURL URLString)
    (clear : ClearBetween page)
    (places : ∀ kind' spelling other, .tag kind' spelling other ∈ page →
      Opens (tagText kind' other) ∧ Shields (kind.linkTag URLString) (tagText kind' other)) :
    replaceAll (kind.linkTag URLString) replacement (page.flatMap (shown tagText)) =
      page.flatMap (shown fun kind' other =>
        if tagText kind' other = kind.linkTag URLString then replacement
        else tagText kind' other) := by
  have some : kind.linkTag URLString ≠ [] := by
    rw [linkTag_eq_cons]
    exact List.cons_ne_nil _ _
  induction page with
  | nil => rfl
  | cons piece page ih =>
    have later := ih clear.tail fun kind' spelling other mem =>
      places kind' spelling other (List.mem_cons_of_mem _ mem)
    rw [List.flatMap_cons, List.flatMap_cons, ← later]
    cases piece with
    | unit _ =>
      refine replaceAll_append fun before first behind same starts => ?_
      have opens : ∀ kind' spelling other, .tag kind' spelling other ∈ page →
          Opens (tagText kind' other) := fun kind' spelling other mem =>
        (places kind' spelling other (List.mem_cons_of_mem _ mem)).1
      cases before with
      | cons _ _ => simp [shown] at same
      | nil =>
        obtain ⟨rfl, rfl⟩ := List.cons.inj same
        rw [linkTag_eq_cons] at starts
        obtain ⟨rfl, body⟩ := List.cons_prefix_cons.mp starts
        apply clear [] lessThanSign page rfl kind URLString clean
        grind [linkTag_eq_cons, prefix_shown, closesScript_tagBody]
    | tag otherKind spelling other =>
      have shields := (places otherKind spelling other List.mem_cons_self).2
      unfold shown
      dsimp only
      split
      · next same => rw [same, replaceAll_target some]
      · next differs =>
          refine replaceAll_append fun before first behind same starts => ?_
          have suffix : first :: behind <:+ tagText otherKind other := ⟨before, same.symm⟩
          exact differs (shields _ _ suffix (List.cons_ne_nil _ _) starts).2

end CRWWebUIPageBuilder

end ChromiumIos
