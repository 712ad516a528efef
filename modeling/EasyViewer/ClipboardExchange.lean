import EasyViewer.Library.Run
import Mathlib.Data.List.Basic
import Mathlib.Logic.Function.Basic

/-!
The clipboards of hosts that view each other's screens. A host that notices a text on its
clipboard sends it to its partners, unless it is the text that it has last sent or taken; a text
from a partner is taken at once, but it is put on the clipboard by another thread, later.
-/

namespace EasyViewer

/-- A follower of `Clipboard` with the connection it sends over: a `ScreenViewer`, or the
`ScreenGuardAbility` as to one of its viewers. -/
structure ClipboardFollower where
  link : Nat
  partner : Nat
  isViewer : Bool
  hasKey : Bool
  deriving DecidableEq, Repr

/-- `text` is `m_text`, `setting` are the signals `textChanged` that have not been delivered,
`noticing` says that `dataChanged` has not. A history: whether the clipboard's text was put there
by `_setText`. -/
structure ClipboardHost where
  clip : String := ""
  text : String := ""
  setting : List String := []
  noticing : Bool := false
  foreign : Bool := false
  followers : List ClipboardFollower := []
  deriving DecidableEq, Repr

/-- `channels` are the texts on their way over a link to a host. A viewer without a key ends its
program. A history: the texts that a host sent on though they came from a partner. -/
structure ClipboardNet where
  hosts : Nat → ClipboardHost := fun _ => {}
  channels : Nat → Nat → List String := fun _ _ => []
  crashed : Bool := false
  echoed : List (Nat × String) := []

inductive ClipboardEvent where
  | copy (host : Nat) (text : String)
  | follow (host : Nat) (followers : List ClipboardFollower)
  | notice (host : Nat)
  | receive (link host : Nat)
  | set (host : Nat)
  | lose (link host : Nat)
  deriving DecidableEq, Repr

namespace ClipboardHost

def setText (host : ClipboardHost) (text : String) : ClipboardHost :=
  if text = host.clip then host
  else { host with text := text, setting := host.setting ++ [text] }

def setClip (host : ClipboardHost) : Option ClipboardHost :=
  match host.setting with
  | [] => none
  | text :: rest =>
      if text = "" then some { host with setting := rest }
      else some { host with setting := rest, clip := text, noticing := true, foreign := true }

def Publishes (host : ClipboardHost) : Prop := host.clip ≠ "" ∧ host.clip ≠ host.text

instance (host : ClipboardHost) : Decidable host.Publishes := inferInstanceAs (Decidable (_ ∧ _))

def notice (host : ClipboardHost) : ClipboardHost :=
  { host with noticing := false, text := if host.Publishes then host.clip else host.text }

def Keyed (host : ClipboardHost) : Prop :=
  ∀ follower ∈ host.followers, follower.isViewer = true → follower.hasKey = true

instance (host : ClipboardHost) : Decidable host.Keyed := inferInstanceAs (Decidable (∀ _ ∈ _, _))

end ClipboardHost

namespace ClipboardNet

def put (net : ClipboardNet) (host : Nat) (state : ClipboardHost) : ClipboardNet :=
  { net with hosts := Function.update net.hosts host state }

/-- The guard sends nothing while it has no key. -/
def publish (net : ClipboardNet) (followers : List ClipboardFollower) (text : String) :
    ClipboardNet :=
  { net with
    channels := fun link host =>
      net.channels link host ++
        (followers.filter fun follower =>
          follower.link = link && follower.partner = host && follower.hasKey).map fun _ => text }

def notice (net : ClipboardNet) (host : Nat) : ClipboardNet :=
  let state := net.hosts host
  let noticed := net.put host state.notice
  if ¬ state.Publishes then noticed
  else if ¬ state.Keyed then { noticed with crashed := true }
  else
    { noticed.publish state.followers state.clip with
      echoed := if state.foreign then net.echoed ++ [(host, state.clip)] else net.echoed }

end ClipboardNet

def clipboardStep (net : ClipboardNet) (event : ClipboardEvent) : Option ClipboardNet :=
  if net.crashed then none
  else
    match event with
    | .copy host text =>
        some (net.put host { net.hosts host with clip := text, noticing := true, foreign := false })
    | .follow host followers => some (net.put host { net.hosts host with followers := followers })
    | .notice host => if (net.hosts host).noticing then some (net.notice host) else none
    | .receive link host =>
        match net.channels link host with
        | [] => none
        | text :: rest =>
            some { net.put host ((net.hosts host).setText text) with
              channels := fun otherLink other =>
                if otherLink = link ∧ other = host then rest else net.channels otherLink other }
    | .set host => (net.hosts host).setClip.map (net.put host)
    | .lose link host =>
        some { net with
          channels := fun otherLink other =>
            if otherLink = link ∧ other = host then [] else net.channels otherLink other }

/-- What waits to be put on the clipboard, or was put there and is not noticed yet, is the text
that was taken last, so it will not be sent on. -/
structure ClipboardHost.Absorbs (host : ClipboardHost) : Prop where
  setting : ∀ text ∈ host.setting, text = host.text
  foreign : host.foreign = true → host.noticing = true → host.clip = host.text

/-- No text that came from a partner was sent on, or is going to be, and no program has ended. -/
structure ClipboardNet.Quiet (net : ClipboardNet) : Prop where
  hosts : ∀ host, (net.hosts host).Absorbs
  echoed : net.echoed = []
  running : net.crashed = false

/-- Another text is taken only when none waits to be set or noticed, and a text of the user's is
noticed only when none waits to be set, with all viewers having their keys. -/
def ClipboardNet.Unhurried (net : ClipboardNet) : ClipboardEvent → Prop
  | .notice host =>
      let state := net.hosts host
      state.Publishes → state.setting = [] ∧ state.Keyed
  | .receive link host =>
      let state := net.hosts host
      ∀ text, (net.channels link host).head? = some text → text ≠ state.clip →
        (∀ waiting ∈ state.setting, waiting = text) ∧
          ¬ (state.foreign = true ∧ state.noticing = true)
  | _ => True

namespace ClipboardHost

variable {host next : ClipboardHost} {text : String}

theorem Absorbs.setText_iff (absorbs : host.Absorbs) : (host.setText text).Absorbs ↔
    (text ≠ host.clip → (∀ waiting ∈ host.setting, waiting = text) ∧
      ¬ (host.foreign = true ∧ host.noticing = true)) := by
  rw [setText]
  split
  · rename_i same
    exact iff_of_true absorbs fun different => absurd same different
  · rename_i different
    constructor
    · intro after _
      refine ⟨fun waiting member => after.setting waiting (List.mem_append_left _ member), ?_⟩
      rintro ⟨foreign, noticing⟩
      exact different (after.foreign foreign noticing).symm
    · intro settled
      obtain ⟨same, seen⟩ := settled different
      refine ⟨fun waiting member => ?_, fun foreign noticing => absurd ⟨foreign, noticing⟩ seen⟩
      rcases List.mem_append.mp member with before | last
      · exact same waiting before
      · exact List.mem_singleton.mp last

theorem Absorbs.setClip (absorbs : host.Absorbs) (isSet : host.setClip = some next) :
    next.Absorbs := by
  rw [ClipboardHost.setClip] at isSet
  split at isSet
  · cases isSet
  · rename_i text rest waits
    have later : ∀ waiting ∈ rest, waiting = host.text := fun waiting member =>
      absorbs.setting waiting (waits ▸ List.mem_cons_of_mem _ member)
    split at isSet
    · cases isSet
      exact ⟨later, absorbs.foreign⟩
    · cases isSet
      exact ⟨later, fun _ _ => absorbs.setting text (waits ▸ List.mem_cons_self)⟩

theorem Absorbs.notice_iff (absorbs : host.Absorbs) :
    host.notice.Absorbs ↔ (host.Publishes → host.setting = []) := by
  constructor
  · intro after publishes
    rw [List.eq_nil_iff_forall_not_mem]
    intro text waits
    have new := after.setting text waits
    rw [notice, if_pos publishes] at new
    exact publishes.2 (new.symm.trans (absorbs.setting text waits))
  · intro empty
    refine ⟨fun text waits => ?_, fun _ again => (nomatch again)⟩
    by_cases publishes : host.Publishes
    · rw [notice, empty publishes] at waits
      contradiction
    · rw [notice, if_neg publishes]
      exact absorbs.setting text waits

theorem Absorbs.own (absorbs : host.Absorbs) (noticing : host.noticing = true)
    (publishes : host.Publishes) : host.foreign = false := by
  rw [← Bool.not_eq_true]
  exact fun foreign => publishes.2 (absorbs.foreign foreign noticing)

end ClipboardHost

namespace ClipboardNet

variable {net next : ClipboardNet} {host : Nat} {state : ClipboardHost} {event : ClipboardEvent}

theorem Quiet.put (quiet : net.Quiet) : (net.put host state).Quiet ↔ state.Absorbs := by
  have own : (net.put host state).hosts host = state := Function.update_self ..
  constructor
  · exact fun after => own ▸ after.hosts host
  · intro absorbs
    refine ⟨fun other => ?_, quiet.echoed, quiet.running⟩
    by_cases same : other = host
    · rw [same, own]
      exact absorbs
    · show (Function.update net.hosts host state other).Absorbs
      rw [Function.update_of_ne same]
      exact quiet.hosts other

theorem quiet_channels (net : ClipboardNet) (channels : Nat → Nat → List String) :
    { net with channels := channels }.Quiet ↔ net.Quiet :=
  ⟨fun quiet => ⟨quiet.hosts, quiet.echoed, quiet.running⟩,
    fun quiet => ⟨quiet.hosts, quiet.echoed, quiet.running⟩⟩

theorem Quiet.notice_iff (quiet : net.Quiet) (noticing : (net.hosts host).noticing = true) :
    (net.notice host).Quiet ↔ net.Unhurried (.notice host) := by
  have absorbs := quiet.hosts host
  have settled := absorbs.notice_iff
  simp only [notice, Unhurried]
  by_cases publishes : (net.hosts host).Publishes
  · rw [if_neg (not_not.mpr publishes)]
    by_cases keyed : (net.hosts host).Keyed
    · rw [if_neg (not_not.mpr keyed), absorbs.own noticing publishes]
      refine (quiet_channels (net.put host (net.hosts host).notice) _).trans
        (quiet.put.trans (settled.trans ?_))
      exact forall_congr' fun _ => (and_iff_left keyed).symm
    · rw [if_pos keyed]
      refine iff_of_false (fun after => ?_) fun allowed => keyed (allowed publishes).2
      cases after.running
  · rw [if_pos publishes]
    refine quiet.put.trans (settled.trans ?_)
    exact iff_of_true (fun isPublished => absurd isPublished publishes)
      fun isPublished => absurd isPublished publishes

theorem clipboardStep_exact (quiet : net.Quiet) (stepped : clipboardStep net event = some next) :
    next.Quiet ↔ net.Unhurried event := by
  rw [clipboardStep.eq_def, if_neg (by simp [quiet.running])] at stepped
  cases event with
  | copy host text =>
      cases stepped
      refine iff_of_true (quiet.put.mpr ?_) trivial
      exact ⟨(quiet.hosts host).setting, fun foreign => (nomatch foreign)⟩
  | follow host followers =>
      cases stepped
      refine iff_of_true (quiet.put.mpr ?_) trivial
      exact ⟨(quiet.hosts host).setting, (quiet.hosts host).foreign⟩
  | notice host =>
      simp only at stepped
      split at stepped
      · rename_i noticing
        cases stepped
        exact quiet.notice_iff noticing
      · cases stepped
  | receive link host =>
      simp only at stepped
      split at stepped
      · cases stepped
      · rename_i text rest waits
        cases stepped
        refine (quiet_channels _ _).trans (quiet.put.trans ((quiet.hosts host).setText_iff.trans ?_))
        simp only [Unhurried, waits, List.head?_cons, Option.some.injEq, forall_eq']
  | set host =>
      obtain ⟨state, isSet, rfl⟩ := Option.map_eq_some_iff.mp stepped
      exact iff_of_true (quiet.put.mpr ((quiet.hosts host).setClip isSet)) trivial
  | lose link host =>
      cases stepped
      exact iff_of_true ((quiet_channels net _).mpr quiet) trivial

end ClipboardNet

structure ClipboardHost.Stands (link partner : Nat) (clip text : String) (setting : List String)
    (noticing : Bool) (host : ClipboardHost) : Prop where
  onClip : host.clip = clip
  known : host.text = text
  waiting : host.setting = setting
  notices : host.noticing = noticing
  theirs : noticing = true → host.foreign = true
  follower : ∃ isViewer, host.followers = [{
    link := link, partner := partner, isViewer := isViewer, hasKey := true }]

/-- Two partners, one of them at rest with its last text; the texts on their way between them, and
how many were sent on. -/
structure ClipboardNet.Between (link host other : Nat) (clip text last : String)
    (setting : List String) (noticing : Bool) (incoming outgoing : List String) (echoes : Nat)
    (net : ClipboardNet) : Prop where
  here : (net.hosts host).Stands link other clip text setting noticing
  there : (net.hosts other).Stands link host last last [] false
  waits : net.channels link host = incoming
  back : net.channels link other = outgoing
  count : net.echoed.length = echoes
  running : net.crashed = false

namespace ClipboardNet

section

variable {net : ClipboardNet} {link host other echoes : Nat} {clip text last first : String}
  {setting incoming outgoing : List String} {noticing : Bool}

theorem Between.receive (apart : host ≠ other)
    (between : net.Between link host other clip text last setting noticing (first :: incoming)
      outgoing echoes) (new : first ≠ clip) :
    ∃ next, clipboardStep net (.receive link host) = some next ∧
      next.Between link host other clip first last (setting ++ [first]) noticing incoming outgoing
        echoes := by
  obtain ⟨here, there, waits, back, count, running⟩ := between
  rw [clipboardStep.eq_def, if_neg (by simp [running])]
  simp only [waits]
  refine ⟨_, rfl, ?_, ?_, ?_, ?_, count, running⟩
  · simp only [put, Function.update_self, ClipboardHost.setText, here.onClip, if_neg new]
    exact ⟨rfl, rfl, by rw [here.waiting], here.notices, here.theirs, here.follower⟩
  · simp only [put, Function.update_of_ne apart.symm]
    exact there
  · simp
  · simp [apart.symm, back]

theorem Between.set (apart : host ≠ other)
    (between : net.Between link host other clip text last (first :: setting) noticing incoming
      outgoing echoes) (nonempty : first ≠ "") :
    ∃ next, clipboardStep net (.set host) = some next ∧
      next.Between link host other first text last setting true incoming outgoing echoes := by
  obtain ⟨here, there, waits, back, count, running⟩ := between
  rw [clipboardStep.eq_def, if_neg (by simp [running])]
  simp only [ClipboardHost.setClip, here.waiting, if_neg nonempty]
  refine ⟨_, rfl, ?_, ?_, waits, back, count, running⟩
  · simp only [put, Function.update_self]
    exact ⟨rfl, here.known, rfl, rfl, fun _ => rfl, here.follower⟩
  · simp only [put, Function.update_of_ne apart.symm]
    exact there

theorem Between.notice (apart : host ≠ other)
    (between : net.Between link host other clip text last setting true incoming outgoing echoes)
    (nonempty : clip ≠ "") (new : clip ≠ text) :
    ∃ next, clipboardStep net (.notice host) = some next ∧
      next.Between link host other clip clip last setting false incoming (outgoing ++ [clip])
        (echoes + 1) := by
  obtain ⟨here, there, waits, back, count, running⟩ := between
  obtain ⟨isViewer, followers⟩ := here.follower
  have publishes : (net.hosts host).Publishes := by
    rw [ClipboardHost.Publishes, here.onClip, here.known]
    exact ⟨nonempty, new⟩
  have keyed : (net.hosts host).Keyed := by simp [ClipboardHost.Keyed, followers]
  have foreign : (net.hosts host).foreign = true := here.theirs rfl
  rw [clipboardStep.eq_def, if_neg (by simp [running])]
  simp only [here.notices, if_true, ClipboardNet.notice, publishes, keyed, not_true_eq_false,
    if_false, foreign, Option.some.injEq]
  refine ⟨_, rfl, ?_, ?_, ?_, ?_, ?_, running⟩
  · simp only [publish, put, Function.update_self, ClipboardHost.notice, if_pos publishes]
    exact ⟨here.onClip, here.onClip, here.waiting, rfl, fun again => (nomatch again), isViewer, followers⟩
  · simp only [publish, put, Function.update_of_ne apart.symm]
    exact there
  · simp [publish, put, followers, waits, apart.symm]
  · simp [publish, put, followers, back, here.onClip]
  · simp [count]

/-- A host takes three texts, each while one before it waits, and so sends all of them back. -/
def turn (link host : Nat) : List ClipboardEvent :=
  [.receive link host, .receive link host, .set host, .notice host, .receive link host, .set host,
    .notice host, .set host, .notice host]

theorem Between.turn {second third : String} (apart : host ≠ other)
    (different : [first, second, third].Nodup) (nonempty : "" ∉ [first, second, third])
    (between : net.Between link host other third third third [] false [first, second, third] []
      echoes) :
    ∃ next, Transition.run clipboardStep net (turn link host) = some next ∧
      next.Between link other host third third third [] false [first, second, third] []
        (echoes + 3) := by
  simp only [List.nodup_cons, List.mem_cons, List.not_mem_nil, or_false, not_or, not_false_eq_true,
    List.nodup_nil, and_true] at different
  obtain ⟨⟨notSecond, notThird⟩, secondThird⟩ := different
  simp only [List.mem_cons, List.not_mem_nil, or_false, not_or] at nonempty
  obtain ⟨firstFull, secondFull, thirdFull⟩ := nonempty
  obtain ⟨afterFirst, stepFirst, between⟩ := between.receive apart notThird
  obtain ⟨afterSecond, stepSecond, between⟩ := between.receive apart secondThird
  obtain ⟨firstSet, stepSet, between⟩ := between.set apart (Ne.symm firstFull)
  obtain ⟨firstSent, stepSent, between⟩ := between.notice apart (Ne.symm firstFull) notSecond
  obtain ⟨afterThird, stepThird, between⟩ := between.receive apart (Ne.symm notThird)
  obtain ⟨secondSet, stepSecondSet, between⟩ := between.set apart (Ne.symm secondFull)
  obtain ⟨secondSent, stepSecondSent, between⟩ :=
    between.notice apart (Ne.symm secondFull) secondThird
  obtain ⟨thirdSet, stepThirdSet, between⟩ := between.set apart (Ne.symm thirdFull)
  obtain ⟨thirdSent, stepThirdSent, between⟩ :=
    between.notice apart (Ne.symm thirdFull) (Ne.symm secondThird)
  refine ⟨thirdSent, ?_, ?_⟩
  · simp only [ClipboardNet.turn, Transition.run, stepFirst, stepSecond, stepSet, stepSent, stepThird,
      stepSecondSet, stepSecondSent, stepThirdSet, stepThirdSent, Option.bind_some]
  · exact ⟨between.there, between.here, between.back, between.waits, between.count,
      between.running⟩

def turns (link : Nat) : Nat → Nat → Nat → List ClipboardEvent
  | 0, _, _ => []
  | rounds + 1, host, other => turn link host ++ turns link rounds other host

end

end ClipboardNet

def ClipboardEvent.Unattended (event : ClipboardEvent) : Prop := ∀ host text, event ≠ .copy host text

theorem ClipboardNet.turns_unattended (link rounds host other : Nat) :
    ∀ event ∈ turns link rounds host other, event.Unattended := by
  induction rounds generalizing host other with
  | zero => exact fun event member => absurd member List.not_mem_nil
  | succ rounds ih =>
      intro event member
      rcases List.mem_append.mp member with now | later
      · simp only [turn, List.mem_cons, List.not_mem_nil, or_false] at now
        rcases now with rfl | rfl | rfl | rfl | rfl | rfl | rfl | rfl | rfl <;>
          exact fun _ _ copies => (nomatch copies)
      · exact ih other host event later

/-- One user copies a text before the other follows, who then copies three. -/
def threeCopies : List ClipboardEvent :=
  [.copy 1 "third", .notice 1,
    .follow 0 [{ link := 0, partner := 1, isViewer := true, hasKey := true }],
    .follow 1 [{ link := 0, partner := 0, isViewer := false, hasKey := true }],
    .copy 0 "first", .notice 0, .copy 0 "second", .notice 0, .copy 0 "third", .notice 0]

end EasyViewer
