import EasyViewer.ByteBuffer

/-!
The frames a `ScreenViewer` receives: the texture it installs in the
`DesktopDisplayer` when the partner's screen is resized, in 32-bit arithmetic as
there, and the conversion of every decoded frame into the installed buffer.
-/

namespace EasyViewer

structure DesktopDisplayer where
  screenBuffer : ByteBuffer := ByteBuffer.empty
  textureWidth : UInt32 := 1
  textureHeight : UInt32 := 1
  imageWidth : UInt32 := 1
  imageHeight : UInt32 := 1

/-- `setScreenBuffer`, without a result where its assertion fails. -/
def DesktopDisplayer.setScreenBuffer (_displayer : DesktopDisplayer) (buf : ByteBuffer)
    (textureWidth textureHeight screenWidth screenHeight : UInt32) : Option DesktopDisplayer :=
  let l := (textureWidth * textureHeight * 4).toNat
  if l ≤ buf.numReadableBytes then
    some
      { screenBuffer := buf
        textureWidth := textureWidth
        textureHeight := textureHeight
        imageWidth := screenWidth
        imageHeight := screenHeight }
  else none

structure PublishedFrame where
  w : UInt32
  h : UInt32
  err : Int
  iBufferStatus : Int

def PublishedFrame.decoded (frame : PublishedFrame) : Bool :=
  frame.err = 0 && frame.iBufferStatus = 1

structure Conversion where
  displayer : DesktopDisplayer
  width : UInt32
  height : UInt32

/-- `decoder` says whether one was created; its state is not modelled. -/
structure ScreenViewer where
  wPartner : UInt32 := 0
  hPartner : UInt32 := 0
  decoder : Bool := false
  displayer : DesktopDisplayer := {}

namespace ScreenViewer

def smeared (v : UInt32) : UInt32 :=
  let n := v ||| v >>> 1
  let n := n ||| n >>> 2
  let n := n ||| n >>> 4
  let n := n ||| n >>> 8
  n ||| n >>> 16

def adjustSize (v : UInt32) : UInt32 :=
  let n := smeared v + 1
  if n >>> 1 = v then v else n

def resize (viewer : ScreenViewer) (w h : UInt32) : Option ScreenViewer :=
  let textureWidth := adjustSize w
  let textureHeight := adjustSize h
  let buf := ByteBuffer.empty.fill 0 (textureWidth * textureHeight * 4).toNat
  (viewer.displayer.setScreenBuffer buf textureWidth textureHeight w h).map fun displayer =>
    { wPartner := w, hPartner := h, decoder := true, displayer := displayer }

def prepare (viewer : ScreenViewer) (publishes : PublishedFrame) : Option ScreenViewer :=
  if publishes.w ≠ viewer.wPartner ∨ publishes.h ≠ viewer.hPartner ∨ viewer.decoder = false then
    viewer.resize publishes.w publishes.h
  else some viewer

def convert (viewer : ScreenViewer) (publishes : PublishedFrame) : Option Conversion :=
  if publishes.err ≠ 0 then none
  else if publishes.iBufferStatus = 1 then
    some ⟨viewer.displayer, viewer.wPartner, viewer.hPartner⟩
  else none

def handlePublishedScreenFrame (viewer : ScreenViewer) (publishes : PublishedFrame) :
    Option (Option Conversion × ScreenViewer) :=
  (viewer.prepare publishes).map fun prepared => (prepared.convert publishes, prepared)

def conversions : ScreenViewer → List PublishedFrame → Option (List Conversion)
  | _, [] => some []
  | viewer, frame :: frames => do
      let (made, next) ← viewer.handlePublishedScreenFrame frame
      let later ← conversions next frames
      return made.toList ++ later

theorem smeared_toNat (v : UInt32) : (smeared v).toNat = PowerOfTwo.smear 5 v.toNat := by
  simp [smeared, PowerOfTwo.smear]

/-- Below `2 ^ 31` the size is rounded up to a power of two, from there on the sum wraps to zero. -/
theorem adjustSize_toNat (v : UInt32) :
    (adjustSize v).toNat = if v.toNat < 2 ^ 31 then PowerOfTwo.roundUp 5 v.toNat else 0 := by
  have fits : v.toNat < 2 ^ 2 ^ 5 := v.toNat_lt
  have word : (smeared v).toNat = 2 ^ v.toNat.size - 1 := by
    rw [smeared_toNat, PowerOfTwo.smear_eq fits]
  have succ : (smeared v + 1).toNat = 2 ^ v.toNat.size % 2 ^ 32 := by
    have one : 1 ≤ 2 ^ v.toNat.size := Nat.one_le_two_pow
    rw [UInt32.toNat_add, word]
    simp only [UInt32.reduceToNat]
    rw [Nat.sub_add_cancel one]
  have half : (smeared v + 1) >>> 1 = v ↔ (smeared v + 1).toNat >>> 1 = v.toNat := by
    rw [← UInt32.toNat_inj, UInt32.toNat_shiftRight]
    rfl
  simp only [adjustSize, half]
  by_cases small : v.toNat < 2 ^ 31
  · have short : v.toNat.size ≤ 31 := Nat.size_le.mpr small
    have noWrap : 2 ^ v.toNat.size < 2 ^ 32 := Nat.pow_lt_pow_right (by omega) (by omega)
    rw [Nat.mod_eq_of_lt noWrap] at succ
    rw [if_pos small, PowerOfTwo.roundUp, PowerOfTwo.smear_eq fits,
      Nat.sub_add_cancel Nat.one_le_two_pow, succ]
    split
    · rfl
    · exact succ
  · have long : v.toNat.size = 32 :=
      le_antisymm (Nat.size_le.mpr v.toNat_lt) (Nat.lt_size.mpr (not_lt.mp small))
    rw [long, Nat.mod_self] at succ
    rw [if_neg small, succ, if_neg (by omega), succ]

theorem adjustSize_small {v : UInt32} (positive : 0 < v.toNat) (small : v.toNat < 2 ^ 31) :
    (adjustSize v).toNat = 2 ^ Nat.clog 2 v.toNat := by
  rw [adjustSize_toNat, if_pos small, PowerOfTwo.roundUp_eq positive v.toNat_lt]

def installed (w h : UInt32) : DesktopDisplayer where
  screenBuffer := ByteBuffer.empty.fill 0 (adjustSize w * adjustSize h * 4).toNat
  textureWidth := adjustSize w
  textureHeight := adjustSize h
  imageWidth := w
  imageHeight := h

theorem fill_numReadableBytes (c : UInt8) (len : Nat) :
    (ByteBuffer.empty.fill c len).numReadableBytes = len := by
  rw [← ByteBuffer.readableBytes_length]
  simp [ByteBuffer.fill]

theorem resize_eq (viewer : ScreenViewer) (w h : UInt32) :
    viewer.resize w h = some ⟨w, h, true, installed w h⟩ := by
  simp only [resize, DesktopDisplayer.setScreenBuffer, fill_numReadableBytes, le_refl, if_true,
    Option.map_some, installed]

def Installed (viewer : ScreenViewer) : Prop :=
  viewer.decoder = true → viewer.displayer = installed viewer.wPartner viewer.hPartner

end ScreenViewer

def PublishedFrame.conversion (frame : PublishedFrame) : Conversion :=
  ⟨ScreenViewer.installed frame.w frame.h, frame.w, frame.h⟩

namespace ScreenViewer

theorem prepare_eq {viewer : ScreenViewer} (installs : viewer.Installed) (frame : PublishedFrame) :
    viewer.prepare frame = some ⟨frame.w, frame.h, true, installed frame.w frame.h⟩ := by
  simp only [prepare]
  split
  · exact resize_eq viewer frame.w frame.h
  · rename_i same
    simp only [not_or, not_not, Bool.not_eq_false] at same
    obtain ⟨width, height, created⟩ := same
    have texture := installs created
    rw [width, height, ← texture, ← created]

theorem handlePublishedScreenFrame_eq {viewer : ScreenViewer} (installs : viewer.Installed)
    (frame : PublishedFrame) :
    viewer.handlePublishedScreenFrame frame =
      some (if frame.decoded then some frame.conversion else none,
        ⟨frame.w, frame.h, true, installed frame.w frame.h⟩) := by
  rw [handlePublishedScreenFrame, prepare_eq installs, Option.map_some]
  simp only [convert, PublishedFrame.conversion, PublishedFrame.decoded, Bool.and_eq_true,
    decide_eq_true_eq, ne_eq, ite_not]
  by_cases failed : frame.err = 0
  · simp only [failed, if_true, true_and]
  · simp only [failed, if_false, false_and]

/-- In every run the assertion holds, and each decoded frame is converted into its own texture. -/
theorem conversions_eq {viewer : ScreenViewer} (installs : viewer.Installed)
    (frames : List PublishedFrame) :
    viewer.conversions frames =
      some ((frames.filter PublishedFrame.decoded).map PublishedFrame.conversion) := by
  induction frames generalizing viewer with
  | nil => rfl
  | cons frame frames ih =>
      have later := @ih ⟨frame.w, frame.h, true, installed frame.w frame.h⟩ fun _ => rfl
      simp only [conversions, handlePublishedScreenFrame_eq installs, Option.bind_eq_bind,
        Option.bind_some, later, List.filter_cons]
      cases frame.decoded with
      | false => rfl
      | true => rfl

end ScreenViewer

namespace Conversion

def Within (conversion : Conversion) (room : Nat) : Prop :=
  ∀ row < conversion.height.toNat,
    row * (conversion.displayer.textureWidth * 4).toNat + conversion.width.toNat * 4 ≤ room

def PowersOfTwo (conversion : Conversion) : Prop :=
  (∃ k, conversion.displayer.textureWidth.toNat = 2 ^ k ∧ conversion.width.toNat ≤ 2 ^ k) ∧
    ∃ k, conversion.displayer.textureHeight.toNat = 2 ^ k ∧ conversion.height.toNat ≤ 2 ^ k

end Conversion

/-- The least powers of two not below the frame's sizes make a texture of less than 4 GiB. -/
def PublishedFrame.Small (frame : PublishedFrame) : Prop :=
  0 < frame.w.toNat ∧ 0 < frame.h.toNat ∧
    2 ^ Nat.clog 2 frame.w.toNat * 2 ^ Nat.clog 2 frame.h.toNat * 4 < 2 ^ 32

namespace ScreenViewer

theorem power_of_adjustSize {v : UInt32} {k : Nat} (power : (adjustSize v).toNat = 2 ^ k) :
    0 < v.toNat ∧ v.toNat < 2 ^ 31 := by
  have positive := Nat.two_pow_pos k
  rw [← power, adjustSize_toNat] at positive
  split at positive
  · rename_i small
    refine ⟨?_, small⟩
    by_contra zero
    have none : v.toNat = 0 := by omega
    rw [none] at positive
    exact absurd positive (by decide)
  · omega

theorem installed_textureWidth {w : UInt32} (h : UInt32) (positive : 0 < w.toNat)
    (small : w.toNat < 2 ^ 31) :
    (installed w h).textureWidth.toNat = 2 ^ Nat.clog 2 w.toNat := adjustSize_small positive small

theorem installed_bytes {w h : UInt32} (widthPositive : 0 < w.toNat) (widthSmall : w.toNat < 2 ^ 31)
    (heightPositive : 0 < h.toNat) (heightSmall : h.toNat < 2 ^ 31) :
    (adjustSize w * adjustSize h * 4).toNat =
      2 ^ Nat.clog 2 w.toNat * 2 ^ Nat.clog 2 h.toNat * 4 % 2 ^ 32 := by
  rw [UInt32.toNat_mul, UInt32.toNat_mul, adjustSize_small widthPositive widthSmall,
    adjustSize_small heightPositive heightSmall]
  exact Nat.mod_mul_mod _ _ _

theorem stride_toNat {w h : UInt32} (positive : 0 < w.toNat) (small : w.toNat < 2 ^ 31)
    (fits : 2 ^ Nat.clog 2 w.toNat * 4 < 2 ^ 32) :
    ((installed w h).textureWidth * 4).toNat = 2 ^ Nat.clog 2 w.toNat * 4 := by
  rw [UInt32.toNat_mul, installed_textureWidth h positive small]
  exact Nat.mod_eq_of_lt fits

end ScreenViewer

namespace PublishedFrame

theorem Small.width {frame : PublishedFrame} (small : frame.Small) :
    2 ^ Nat.clog 2 frame.w.toNat * 4 < 2 ^ 32 := by
  obtain ⟨_, _, product⟩ := small
  refine lt_of_le_of_lt (Nat.mul_le_mul_right 4 ?_) product
  exact Nat.le_mul_of_pos_right _ (Nat.two_pow_pos _)

theorem Small.height {frame : PublishedFrame} (small : frame.Small) :
    2 ^ Nat.clog 2 frame.h.toNat * 4 < 2 ^ 32 := by
  obtain ⟨_, _, product⟩ := small
  refine lt_of_le_of_lt (Nat.mul_le_mul_right 4 ?_) product
  exact Nat.le_mul_of_pos_left _ (Nat.two_pow_pos _)

theorem Small.lt {frame : PublishedFrame} (small : frame.Small) :
    frame.w.toNat < 2 ^ 31 ∧ frame.h.toNat < 2 ^ 31 := by
  have width := Nat.le_pow_clog (by decide : 1 < 2) frame.w.toNat
  have height := Nat.le_pow_clog (by decide : 1 < 2) frame.h.toNat
  have widthFits := small.width
  have heightFits := small.height
  omega

theorem Small.fits {frame : PublishedFrame} (small : frame.Small) :
    frame.conversion.Within frame.conversion.displayer.screenBuffer.numReadableBytes ∧
      frame.conversion.PowersOfTwo := by
  have widthFits := small.width
  obtain ⟨widthSmall, heightSmall⟩ := small.lt
  obtain ⟨widthPositive, heightPositive, product⟩ := small
  have width := Nat.le_pow_clog (by decide : 1 < 2) frame.w.toNat
  have height := Nat.le_pow_clog (by decide : 1 < 2) frame.h.toNat
  have filled : frame.conversion.displayer.screenBuffer.numReadableBytes =
      2 ^ Nat.clog 2 frame.w.toNat * 2 ^ Nat.clog 2 frame.h.toNat * 4 := by
    simp only [conversion, ScreenViewer.installed, ScreenViewer.fill_numReadableBytes]
    rw [ScreenViewer.installed_bytes widthPositive widthSmall heightPositive heightSmall,
      Nat.mod_eq_of_lt product]
  refine ⟨fun row below => ?_, ⟨_, ScreenViewer.adjustSize_small widthPositive widthSmall, width⟩,
    ⟨_, ScreenViewer.adjustSize_small heightPositive heightSmall, height⟩⟩
  have stride : (frame.conversion.displayer.textureWidth * 4).toNat =
      2 ^ Nat.clog 2 frame.w.toNat * 4 :=
    ScreenViewer.stride_toNat widthPositive widthSmall widthFits
  have rows : row + 1 ≤ 2 ^ Nat.clog 2 frame.h.toNat := Nat.le_trans below height
  rw [filled, stride]
  calc row * (2 ^ Nat.clog 2 frame.w.toNat * 4) + frame.w.toNat * 4
      ≤ row * (2 ^ Nat.clog 2 frame.w.toNat * 4) + 2 ^ Nat.clog 2 frame.w.toNat * 4 := by omega
    _ = (row + 1) * (2 ^ Nat.clog 2 frame.w.toNat * 4) := by ring
    _ ≤ 2 ^ Nat.clog 2 frame.h.toNat * (2 ^ Nat.clog 2 frame.w.toNat * 4) :=
        Nat.mul_le_mul_right _ rows
    _ = 2 ^ Nat.clog 2 frame.w.toNat * 2 ^ Nat.clog 2 frame.h.toNat * 4 := by ring

/-- Where the product of the sizes wraps the buffer has only its least capacity, which the
frame's rows do not fit in. -/
theorem small_of_fits {frame : PublishedFrame}
    (within : frame.conversion.Within frame.conversion.displayer.screenBuffer.capacity)
    (powers : frame.conversion.PowersOfTwo) : frame.Small := by
  obtain ⟨⟨_, widthPower, _⟩, _, heightPower, _⟩ := powers
  obtain ⟨widthPositive, widthSmall⟩ := ScreenViewer.power_of_adjustSize widthPower
  obtain ⟨heightPositive, heightSmall⟩ := ScreenViewer.power_of_adjustSize heightPower
  refine ⟨widthPositive, heightPositive, ?_⟩
  by_contra wraps
  have exponent : 32 ≤ Nat.clog 2 frame.w.toNat + Nat.clog 2 frame.h.toNat + 2 := by
    refine (Nat.pow_le_pow_iff_right (by decide : 1 < 2)).mp ?_
    rw [Nat.pow_add, Nat.pow_add]
    exact not_lt.mp wraps
  have empty :
      (ScreenViewer.adjustSize frame.w * ScreenViewer.adjustSize frame.h * 4).toNat = 0 := by
    rw [ScreenViewer.installed_bytes widthPositive widthSmall heightPositive heightSmall]
    refine Nat.mod_eq_zero_of_dvd ?_
    have divides := Nat.pow_dvd_pow 2 exponent
    rwa [Nat.pow_add, Nat.pow_add] at divides
  have capacity : frame.conversion.displayer.screenBuffer.capacity = 4096 := by
    simp only [conversion, ScreenViewer.installed, empty, ByteBuffer.fill_zero]
    exact ByteBuffer.empty_capacity
  have firstRow := within 0 heightPositive
  simp only [capacity] at firstRow
  have narrow : frame.w.toNat ≤ 2 ^ 10 := by
    simp only [conversion] at firstRow
    omega
  have widthExponent : Nat.clog 2 frame.w.toNat ≤ 10 := Nat.clog_le_of_le_pow narrow
  have tall : 2 ^ 19 < frame.h.toNat := Nat.pow_lt_of_lt_clog (by omega)
  have texture : 2 ^ Nat.clog 2 frame.w.toNat ≤ 2 ^ 10 :=
    Nat.pow_le_pow_right (by decide) widthExponent
  have stride : (frame.conversion.displayer.textureWidth * 4).toNat =
      2 ^ Nat.clog 2 frame.w.toNat * 4 :=
    ScreenViewer.stride_toNat widthPositive widthSmall (by omega)
  have lastRow := within 2000 (lt_trans (by decide) tall)
  have columns := Nat.two_pow_pos (Nat.clog 2 frame.w.toNat)
  rw [capacity, stride] at lastRow
  omega

theorem fits_iff {frame : PublishedFrame} {room : Nat}
    (least : frame.conversion.displayer.screenBuffer.numReadableBytes ≤ room)
    (most : room ≤ frame.conversion.displayer.screenBuffer.capacity) :
    frame.conversion.Within room ∧ frame.conversion.PowersOfTwo ↔ frame.Small := by
  constructor
  · rintro ⟨within, powers⟩
    exact small_of_fits (fun row below => (within row below).trans most) powers
  · intro small
    obtain ⟨within, powers⟩ := small.fits
    exact ⟨fun row below => (within row below).trans least, powers⟩

end PublishedFrame

namespace ScreenViewer

/-- A run in which every decoded frame is converted into a buffer that is large enough, measured
by the bytes it was filled with or by the memory behind it. -/
def BuffersLargeEnough (room : ByteBuffer → Nat) (made : List Conversion) : Prop :=
  ∀ conversion ∈ made,
    conversion.Within (room conversion.displayer.screenBuffer) ∧ conversion.PowersOfTwo

theorem buffersLargeEnough_iff {room : ByteBuffer → Nat}
    (least : ∀ buffer, buffer.numReadableBytes ≤ room buffer)
    (most : ∀ buffer, room buffer ≤ buffer.capacity) (frames : List PublishedFrame) :
    BuffersLargeEnough room
        ((frames.filter PublishedFrame.decoded).map PublishedFrame.conversion) ↔
      ∀ frame ∈ frames, frame.decoded = true → frame.Small := by
  simp only [BuffersLargeEnough, List.forall_mem_map, List.mem_filter, and_imp,
    PublishedFrame.fits_iff (least _) (most _)]

theorem numReadableBytes_le_capacity (buffer : ByteBuffer) :
    buffer.numReadableBytes ≤ buffer.capacity :=
  (Nat.sub_le _ _).trans buffer.fits

/-- The buffers of a run are large enough just when every decoded frame's texture stays below
4 GiB. -/
theorem screenBuffers_large_enough_iff (frames : List PublishedFrame) :
    ∃ made, conversions {} frames = some made ∧
      (BuffersLargeEnough ByteBuffer.numReadableBytes made ↔
        ∀ frame ∈ frames, frame.decoded = true → frame.Small) ∧
      (BuffersLargeEnough ByteBuffer.capacity made ↔
        ∀ frame ∈ frames, frame.decoded = true → frame.Small) := by
  have none : Installed {} := fun created => absurd created (by decide)
  exact ⟨_, conversions_eq none frames,
    buffersLargeEnough_iff (fun _ => le_rfl) numReadableBytes_le_capacity frames,
    buffersLargeEnough_iff numReadableBytes_le_capacity (fun _ => le_rfl) frames⟩

/-- A decoded frame of 32768 by 32768 pixels, whose texture has 2 ^ 32 bytes. -/
def wrappingFrame : PublishedFrame := ⟨32768, 32768, 0, 1⟩

theorem wrappingFrame_overflows :
    ∃ made, conversions {} [wrappingFrame] = some made ∧
      ¬BuffersLargeEnough ByteBuffer.capacity made := by
  have none : Installed {} := fun created => absurd created (by decide)
  refine ⟨_, conversions_eq none [wrappingFrame], ?_⟩
  rw [buffersLargeEnough_iff numReadableBytes_le_capacity (fun _ => le_rfl)]
  intro small
  obtain ⟨_, _, product⟩ := small wrappingFrame (List.mem_singleton_self _) (by decide)
  have exponent : Nat.clog 2 wrappingFrame.w.toNat = 15 := Nat.clog_pow 2 15 (by decide)
  have same : wrappingFrame.h.toNat = wrappingFrame.w.toNat := rfl
  rw [same, exponent] at product
  exact absurd product (by decide)

end ScreenViewer

end EasyViewer
