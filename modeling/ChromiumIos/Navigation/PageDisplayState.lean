import Mathlib

/-!
# The display state of a page

How far a page is scrolled and zoomed is kept with its navigation item.  The
numbers are floating-point numbers that nothing here computes with: they are
known by their bits, and a number that is missing is not a number.
-/

namespace ChromiumIos

structure CGFloat where
  bits : UInt64
  deriving DecidableEq, Repr

namespace CGFloat

def nan : CGFloat := ⟨0x7ff8000000000000⟩
def zero : CGFloat := ⟨0⟩

end CGFloat

structure CGPoint where
  x : CGFloat
  y : CGFloat
  deriving DecidableEq, Repr

structure UIEdgeInsets where
  top : CGFloat
  left : CGFloat
  bottom : CGFloat
  right : CGFloat
  deriving DecidableEq, Repr

structure PageScrollState where
  contentOffset : CGPoint := ⟨.nan, .nan⟩
  contentInset : UIEdgeInsets := ⟨.nan, .nan, .nan, .nan⟩
  deriving DecidableEq, Repr

structure PageZoomState where
  minimumZoomScale : CGFloat := .nan
  maximumZoomScale : CGFloat := .nan
  zoomScale : CGFloat := .nan
  deriving DecidableEq, Repr

structure PageDisplayState where
  scrollState : PageScrollState := {}
  zoomState : PageZoomState := {}
  deriving DecidableEq, Repr

inductive DisplayValue where
  | number (value : CGFloat)
  | point (value : CGPoint)
  | edgeInsets (value : UIEdgeInsets)
  deriving DecidableEq, Repr

abbrev DisplayDictionary := List (String × DisplayValue)

namespace PageDisplayState

def kContentOffsetKey : String := "contentOffset"
def kContentInsetKey : String := "contentInset"
def kMinZoomKey : String := "minZoom"
def kMaxZoomKey : String := "maxZoom"
def kZoomKey : String := "zoom"
def kDeprecatedXOffsetKey : String := "scrollX"
def kDeprecatedYOffsetKey : String := "scrollY"

variable (serialization : DisplayDictionary)

def getFloatValue (key : String) (serialization : DisplayDictionary) : CGFloat :=
  match serialization.lookup key with
  | some (.number value) => value
  | _ => .nan

def getContentOffset : CGPoint :=
  match serialization.lookup kContentOffsetKey with
  | some (.point value) => value
  | _ =>
    ⟨getFloatValue kDeprecatedXOffsetKey serialization,
      getFloatValue kDeprecatedYOffsetKey serialization⟩

def getContentInset : UIEdgeInsets :=
  match serialization.lookup kContentInsetKey with
  | some (.edgeInsets value) => value
  | _ =>
    if (serialization.lookup kDeprecatedXOffsetKey).isSome ∧
        (serialization.lookup kDeprecatedYOffsetKey).isSome then
      ⟨.zero, .zero, .zero, .zero⟩
    else ⟨.nan, .nan, .nan, .nan⟩

def initWithSerialization : PageDisplayState where
  scrollState := ⟨getContentOffset serialization, getContentInset serialization⟩
  zoomState :=
    ⟨getFloatValue kMinZoomKey serialization, getFloatValue kMaxZoomKey serialization,
      getFloatValue kZoomKey serialization⟩

def getSerialization (state : PageDisplayState) : DisplayDictionary :=
  [(kContentOffsetKey, .point state.scrollState.contentOffset),
    (kContentInsetKey, .edgeInsets state.scrollState.contentInset),
    (kMinZoomKey, .number state.zoomState.minimumZoomScale),
    (kMaxZoomKey, .number state.zoomState.maximumZoomScale),
    (kZoomKey, .number state.zoomState.zoomScale)]

/-- A display state is read from its dictionary as it was. -/
theorem initWithSerialization_getSerialization (state : PageDisplayState) :
    initWithSerialization state.getSerialization = state :=
  rfl

end PageDisplayState

end ChromiumIos
