import Mathlib.Data.List.Forall2
import RoadsideSnmp.Dissection
import RoadsideSnmp.Proofs.Ber.Bounds

/-! Taking octets apart by hand never leaves them. A survey remembers of every cursor what it was
opened on, which the cursor itself forgets as it goes on. Whatever is probed, and in whatever order,
each cursor stays on its own part of the string and knows its place in it; what a probe brings to
light stands in the string where the probe passed, and a fault lies there too. -/
namespace RoadsideSnmp

def Octets.StandsAt (whole : Octets) (start : Nat) (part : Octets) : Prop :=
  ∃ before after, whole = before ++ (part ++ after) ∧ before.length = start

namespace Octets.StandsAt

variable {whole front part back : Octets} {start : Nat}

theorem refl (whole : Octets) : whole.StandsAt 0 whole := ⟨[], [], by simp, rfl⟩

theorem inside (stands : whole.StandsAt start (front ++ (part ++ back))) :
    whole.StandsAt (start + front.length) part := by
  obtain ⟨before, after, rfl, rfl⟩ := stands
  refine ⟨before ++ front, back ++ after, ?_, List.length_append⟩
  simp only [List.append_assoc]

end Octets.StandsAt

/-- What a cursor was opened on: where it begins in the outermost string, and its octets. -/
structure Window where
  start : Nat
  octets : Octets

def Window.stop (window : Window) : Nat := window.start + window.octets.length

structure Cursor.IsOn (cursor : Cursor) (window : Window) : Prop where
  base : cursor.base = window.start
  taken_le : cursor.taken ≤ window.octets.length
  rest : cursor.rest = window.octets.drop cursor.taken

/-- The window shows a part of the string, and the cursor's offset is its place in the string. -/
structure Placed (whole : Octets) (cursor : Cursor) (window : Window) : Prop where
  part : whole.StandsAt window.start window.octets
  isOn : cursor.IsOn window
  offset : whole.StandsAt cursor.offset cursor.rest
  stop : cursor.offset + cursor.rest.length = window.stop

namespace Placed

variable {whole : Octets} {cursor after inside : Cursor} {window : Window} {front : Octets}

theorem of_isOn (stands : whole.StandsAt window.start window.octets) (isOn : cursor.IsOn window) :
    Placed whole cursor window := by
  have width : (window.octets.take cursor.taken).length = cursor.taken :=
    List.length_take_of_le isOn.taken_le
  have split : window.octets = window.octets.take cursor.taken ++ (cursor.rest ++ []) := by
    rw [List.append_nil, isOn.rest, List.take_append_drop]
  refine ⟨stands, isOn, ?_, ?_⟩
  · rw [split] at stands
    have rest := stands.inside
    rwa [width, ← isOn.base] at rest
  · rw [Cursor.offset, isOn.base, isOn.rest, List.length_drop, Window.stop]
    have := isOn.taken_le
    omega

theorem fresh (stands : whole.StandsAt cursor.base cursor.rest) (new : cursor.taken = 0) :
    Placed whole cursor ⟨cursor.base, cursor.rest⟩ :=
  of_isOn stands ⟨rfl, by simp [new], by simp [new]⟩

theorem passes (placed : Placed whole cursor window) (passes : cursor.Passes front after) :
    Placed whole after window := by
  have left : window.octets.drop cursor.taken = front ++ after.rest :=
    placed.isOn.rest.symm.trans passes.rest
  refine of_isOn placed.part ⟨passes.base.trans placed.isOn.base, ?_, ?_⟩
  · have width := congrArg List.length left
    rw [List.length_drop, List.length_append] at width
    have bound := placed.isOn.taken_le
    rw [passes.taken]
    omega
  · rw [passes.taken, ← List.drop_drop, left, List.drop_left]

theorem standsAt (placed : Placed whole cursor window) {start : Nat} {part : Octets}
    (ahead : cursor.Ahead start part) : whole.StandsAt start part := by
  obtain ⟨front, back, rest, rfl⟩ := ahead
  have stands := placed.offset
  rw [rest] at stands
  exact stands.inside

theorem opens (placed : Placed whole cursor window) (opens : Opens cursor after inside) :
    Placed whole inside ⟨inside.base, inside.rest⟩ := by
  obtain ⟨front, content, passes, rfl⟩ := opens
  refine fresh (placed.standsAt ⟨front, after.rest, ?_, rfl⟩) rfl
  rw [passes.rest, List.append_assoc]

end Placed

namespace Finding

def parts : Finding → List Octets
  | .octets content | .address content => [content]
  | .binding found => [found.content]
  | .bindings found => found.map Binding.content
  | .message found => found.bindings.map Binding.content
  | _ => []

def octets? : Finding → Option Octets
  | .octets content | .address content => some content
  | _ => none

/-- Its octet strings are cut out of what was passed; one that is all of it is the last part. -/
structure IsCut (before after : Cursor) (finding : Finding) : Prop where
  parts_shown : Shows parts before after finding
  ends : ∀ octets, finding.octets? = some octets → Ends before after octets

namespace IsCut

variable {before after : Cursor} {finding : Finding}

theorem of_shows (shown : Shows parts before after finding) (other : finding.octets? = none) :
    finding.IsCut before after :=
  ⟨shown, fun octets same => by simp [other] at same⟩

theorem of_ends {octets : Octets} (ends : Ends before after octets)
    (same : finding = .octets octets ∨ finding = .address octets) :
    finding.IsCut before after := by
  obtain rfl | rfl := same
  · exact ⟨ends.shows, fun _ same => Option.some.inj same ▸ ends⟩
  · exact ⟨ends.shows, fun _ same => Option.some.inj same ▸ ends⟩

end IsCut
end Finding

def Probe.givesAll : Probe → Bool
  | .octets _ | .tlv => true
  | _ => false

namespace Dissection

variable {dissection : Dissection} {probe : Probe}

inductive Came (dissection : Dissection) (probe : Probe) :
    Except DecodeError Finding × Dissection → Prop
  | read {result : Except DecodeError Finding} {top : Cursor} (other : probe ≠ .rest)
      (sound : Sound Finding.IsCut dissection.top (result, top))
      (all : probe.givesAll → ∀ finding octets, result = .ok finding →
        finding.octets? = some octets → dissection.top.Passes octets top) :
      Came dissection probe (result, { dissection with top })
  | saw (rest : probe = .rest) :
      Came dissection probe (.ok (.octets dissection.top.rest), dissection)
  | entered {top inside : Cursor} (other : probe ≠ .rest)
      (opens : Opens dissection.top top inside) :
      Came dissection probe (.ok .nothing, ⟨inside, top :: dissection.below⟩)
  | left {outer : Cursor} {below : List Cursor} (other : probe ≠ .rest)
      (listed : dissection.below = outer :: below) :
      Came dissection probe (.ok .nothing, ⟨outer, below⟩)

theorem came_read {α : Type} {Gives : Cursor → Cursor → α → Prop} {reading : Reading α}
    {finding : α → Finding} (keeps : Keeps reading Gives) (other : probe ≠ .rest)
    (cut : ∀ {before after result}, Gives before after result →
      (finding result).IsCut before after)
    (all : probe.givesAll → ∀ {before after result octets}, Gives before after result →
      (finding result).octets? = some octets → before.Passes octets after) :
    dissection.Came probe (dissection.read reading finding) := by
  have sound := keeps dissection.top
  unfold read
  match outcome : reading dissection.top with
  | (.ok result, top) =>
      rw [outcome] at sound
      obtain ⟨front, passes⟩ := sound.passes
      have given := sound.gives result rfl
      refine .read other (.ok passes (cut given)) fun whole _ octets found => ?_
      exact Except.ok.inj found ▸ all whole given
  | (.error error, top) =>
      rw [outcome] at sound
      exact .read other (sound.failed rfl) fun _ _ _ same => by simp [Except.map] at same

theorem came_plain {α : Type} {Gives : Cursor → Cursor → α → Prop} {reading : Reading α}
    {finding : α → Finding} (keeps : Keeps reading Gives) (other : probe ≠ .rest)
    (cut : ∀ {before after result}, Gives before after result →
      (finding result).IsCut before after)
    (partly : probe.givesAll = false) : dissection.Came probe (dissection.read reading finding) :=
  came_read keeps other cut fun all => by simp [partly] at all

theorem came_blank {α : Type} {Gives : Cursor → Cursor → α → Prop} {reading : Reading α}
    {finding : α → Finding} (keeps : Keeps reading Gives) (other : probe ≠ .rest)
    (blank : ∀ result, (finding result).parts = [] ∧ (finding result).octets? = none)
    (partly : probe.givesAll = false) : dissection.Came probe (dissection.read reading finding) :=
  came_plain keeps other (fun _ => .of_shows (by simp [Shows, (blank _).1]) (blank _).2) partly

theorem came_whole {reading : Reading Octets} (keeps : Keeps reading Passed)
    (other : probe ≠ .rest) : dissection.Came probe (dissection.read reading .octets) := by
  refine came_read keeps other (fun passes => .of_ends ⟨[], passes⟩ (.inl rfl)) fun _ => ?_
  intro before after result octets passes same
  exact Option.some.inj same ▸ passes

theorem came_enter {reading : Reading Cursor} (keeps : Keeps reading Opens)
    (other : probe ≠ .rest) : dissection.Came probe (dissection.enter reading) := by
  have sound := keeps dissection.top
  unfold enter
  match outcome : reading dissection.top with
  | (.ok inside, top) =>
      rw [outcome] at sound
      exact .entered other (sound.gives inside rfl)
  | (.error error, top) =>
      rw [outcome] at sound
      exact .read other (sound.failed rfl) fun _ _ _ same => by simp at same

theorem came_leave (other : probe ≠ .rest) :
    dissection.Came probe (.ok .nothing, dissection.leave) := by
  unfold leave
  split
  · exact .read other (.ok (.refl dissection.top) (.of_shows (by simp [Shows, Finding.parts]) rfl))
      fun _ _ _ found same => by simp [← Except.ok.inj found, Finding.octets?] at same
  · next outer below listed => exact .left other listed

theorem came (dissection : Dissection) (probe : Probe) :
    dissection.Came probe (dissection.probe probe) := by
  cases probe with
  | octet => exact came_blank .octet (by simp) (fun _ => ⟨rfl, rfl⟩) rfl
  | length => exact came_blank .length (by simp) (fun _ => ⟨rfl, rfl⟩) rfl
  | octets count => exact came_whole (.octets count) (by simp)
  | expectTag tag => exact came_blank (.expectTag tag) (by simp) (fun _ => ⟨rfl, rfl⟩) rfl
  | header => exact came_blank .header (by simp) (fun _ => ⟨rfl, rfl⟩) rfl
  | integer => exact came_blank .integer (by simp) (fun _ => ⟨rfl, rfl⟩) rfl
  | integerContent count =>
      exact came_blank (.integerContent count) (by simp) (fun _ => ⟨rfl, rfl⟩) rfl
  | counter64 tag => exact came_blank (.counter64 tag) (by simp) (fun _ => ⟨rfl, rfl⟩) rfl
  | counter64Content count =>
      exact came_blank (.counter64Content count) (by simp) (fun _ => ⟨rfl, rfl⟩) rfl
  | unsigned tag => exact came_blank (.unsigned tag) (by simp) (fun _ => ⟨rfl, rfl⟩) rfl
  | unsignedContent count =>
      exact came_blank (.unsignedContent count) (by simp) (fun _ => ⟨rfl, rfl⟩) rfl
  | octetString =>
      exact came_plain .octetString (by simp) (fun ends => .of_ends ends (.inl rfl)) rfl
  | null => exact came_blank .null (by simp) (fun _ => ⟨rfl, rfl⟩) rfl
  | objectId => exact came_blank .objectId (by simp) (fun _ => ⟨rfl, rfl⟩) rfl
  | ipAddress => exact came_plain .ipAddress (by simp) (fun ends => .of_ends ends (.inr rfl)) rfl
  | tlv => exact came_whole .tlv (by simp)
  | skip => exact came_blank .skip (by simp) (fun _ => ⟨rfl, rfl⟩) rfl
  | rest => exact .saw rfl
  | binding => exact came_plain .binding (by simp) (fun shown => .of_shows shown rfl) rfl
  | bindings => exact came_plain .bindings (by simp) (fun shown => .of_shows shown rfl) rfl
  | message => exact came_plain .message (by simp) (fun shown => .of_shows shown rfl) rfl
  | constructed tag => exact came_enter (.constructed tag) (by simp)
  | inner count => exact came_enter (.inner count) (by simp)
  | leave => exact came_leave (by simp)

end Dissection

/-- A dissection with what each of its cursors was opened on, innermost first. -/
structure Survey where
  dissection : Dissection
  windows : List Window

namespace Survey

def ofOctets (whole : Octets) : Survey := ⟨.ofOctets whole, [⟨0, whole⟩]⟩

def follow (survey : Survey) (after : Dissection) : Survey :=
  ⟨after, match compare after.depth survey.dissection.depth with
    | .gt => ⟨after.top.base, after.top.rest⟩ :: survey.windows
    | .eq => survey.windows
    | .lt => survey.windows.tail⟩

def probe (survey : Survey) (probe : Probe) : Survey :=
  survey.follow (survey.dissection.probe probe).2

/-- After any probes, those that failed included. -/
def after (whole : Octets) (probes : List Probe) : Survey := probes.foldl probe (ofOctets whole)

def Holds (whole : Octets) (survey : Survey) : Prop :=
  List.Forall₂ (Placed whole) (survey.dissection.top :: survey.dissection.below) survey.windows

/-- What a probe answers, and where it leaves the cursor that it worked on. -/
structure Answers (whole : Octets) (survey : Survey) (probe : Probe)
    (result : Except DecodeError Finding) (top : Cursor) : Prop where
  /-- A fault lies where the cursor went, and in its window. -/
  fault : ∀ error, result = .error error → ∃ window, survey.windows.head? = some window ∧
    window.start ≤ error.offset ∧ error.offset ≤ window.stop ∧
    survey.dissection.top.offset ≤ error.offset ∧ error.offset ≤ top.offset
  /-- What it gives stands in the string where the cursor went, -/
  parts : ∀ finding, result = .ok finding → probe ≠ .rest → ∀ part ∈ finding.parts, ∃ start,
    whole.StandsAt start part ∧ survey.dissection.top.offset ≤ start ∧
    start + part.length ≤ top.offset
  /-- at the end of it, if it is all octets, -/
  ends : ∀ finding octets, result = .ok finding → finding.octets? = some octets → probe ≠ .rest →
    ∃ start, whole.StandsAt start octets ∧ start + octets.length = top.offset ∧
    (probe.givesAll → start = survey.dissection.top.offset)
  /-- or else is what the cursor has before it. -/
  rest : probe = .rest → result = .ok (.octets survey.dissection.top.rest) ∧
    top = survey.dissection.top

/-- One more cursor. Its window lies between where the one below it was before and is now. -/
structure Opened (before after : Survey) (top : Cursor) (window : Window) : Prop where
  new : after.dissection.top.taken = 0
  below : after.dissection.below = top :: before.dissection.below
  windows : after.windows = window :: before.windows
  low : before.dissection.top.offset ≤ window.start
  high : window.stop = top.offset

inductive Leads (before after : Survey) (top : Cursor) : Prop
  | stays (there : after.dissection = { before.dissection with top })
      (windows : after.windows = before.windows)
  | opened {window : Window} (opened : Opened before after top window)
  | left (same : top = before.dissection.top)
      (below : before.dissection.below = after.dissection.top :: after.dissection.below)
      (windows : after.windows = before.windows.tail)

variable {whole : Octets} {survey : Survey} {probe : Probe} {top inside outer : Cursor}

theorem follow_stay : survey.follow { survey.dissection with top } =
    ⟨{ survey.dissection with top }, survey.windows⟩ := by
  simp [follow, Dissection.depth]

theorem follow_enter : survey.follow ⟨inside, top :: survey.dissection.below⟩ =
    ⟨⟨inside, top :: survey.dissection.below⟩, ⟨inside.base, inside.rest⟩ :: survey.windows⟩ := by
  simp [follow, Dissection.depth, Nat.compare_eq_gt.mpr]

theorem follow_leave {below : List Cursor} (listed : survey.dissection.below = outer :: below) :
    survey.follow ⟨outer, below⟩ = ⟨⟨outer, below⟩, survey.windows.tail⟩ := by
  simp [follow, Dissection.depth, listed, Nat.compare_eq_lt.mpr]

theorem Answers.nothing (other : probe ≠ .rest) :
    Answers whole survey probe (.ok .nothing) top where
  fault _ failed := by simp at failed
  parts _ found := by simp [← Except.ok.inj found, Finding.parts]
  ends _ _ found same := by simp [← Except.ok.inj found, Finding.octets?] at same
  rest same := absurd same other

namespace Holds

theorem ofOctets (whole : Octets) : Holds whole (ofOctets whole) :=
  .cons (Placed.fresh (.refl whole) rfl) .nil

theorem split (holds : Holds whole survey) : ∃ window outer, survey.windows = window :: outer ∧
    Placed whole survey.dissection.top window ∧
    List.Forall₂ (Placed whole) survey.dissection.below outer := by
  obtain ⟨window, outer, placed, others, windows⟩ := List.forall₂_cons_left_iff.mp holds
  exact ⟨window, outer, windows, placed, others⟩

theorem stay (holds : Holds whole survey) {front : Octets}
    (passes : survey.dissection.top.Passes front top) :
    Holds whole ⟨{ survey.dissection with top }, survey.windows⟩ := by
  obtain ⟨window, outer, windows, placed, others⟩ := holds.split
  rw [windows]
  exact .cons (placed.passes passes) others

theorem enter (holds : Holds whole survey) (opens : Opens survey.dissection.top top inside) :
    Holds whole ⟨⟨inside, top :: survey.dissection.below⟩,
      ⟨inside.base, inside.rest⟩ :: survey.windows⟩ := by
  obtain ⟨window, outer, windows, placed, others⟩ := holds.split
  obtain ⟨front, content, passes, -⟩ := id opens
  rw [windows]
  exact .cons (placed.opens opens) (.cons (placed.passes passes) others)

theorem leave (holds : Holds whole survey) {below : List Cursor}
    (listed : survey.dissection.below = outer :: below) :
    Holds whole ⟨⟨outer, below⟩, survey.windows.tail⟩ := by
  obtain ⟨window, others, windows, -, left⟩ := holds.split
  rw [listed] at left
  rw [windows]
  exact left

theorem answers (holds : Holds whole survey) {result : Except DecodeError Finding}
    (other : probe ≠ .rest) (sound : Sound Finding.IsCut survey.dissection.top (result, top))
    (all : probe.givesAll → ∀ finding octets, result = .ok finding →
      finding.octets? = some octets → survey.dissection.top.Passes octets top) :
    Answers whole survey probe result top := by
  obtain ⟨window, outer, windows, placed, -⟩ := holds.split
  obtain ⟨front, passes⟩ := sound.passes
  refine ⟨fun error failed => ?fault, ?parts, ?ends, fun rest => absurd rest other⟩
  case fault =>
    obtain ⟨low, high⟩ := sound.fault error failed
    have start : window.start ≤ survey.dissection.top.offset :=
      placed.isOn.base ▸ Nat.le_add_right _ _
    have stop : top.offset ≤ window.stop :=
      (placed.passes passes).stop ▸ Nat.le_add_right _ _
    exact ⟨window, by rw [windows, List.head?_cons], Nat.le_trans start low,
      Nat.le_trans high stop, low, high⟩
  case parts =>
    intro finding found _ part among
    obtain ⟨start, ahead, stop⟩ := (sound.gives finding found).parts_shown part among
    obtain ⟨before, _, _, rfl⟩ := id ahead
    exact ⟨_, placed.standsAt ahead, Nat.le_add_right _ _, stop⟩
  case ends =>
    intro finding octets found same _
    obtain ⟨before, ends⟩ := (sound.gives finding found).ends octets same
    have offset := ends.offset
    rw [List.length_append, ← Nat.add_assoc] at offset
    have ahead : survey.dissection.top.Ahead (survey.dissection.top.offset + before.length)
        octets := ⟨before, top.rest, by rw [ends.rest, List.append_assoc], rfl⟩
    refine ⟨_, placed.standsAt ahead, offset.symm, fun whole => ?_⟩
    have width := (all whole finding octets found same).offset
    dsimp only at offset
    omega

theorem step (holds : Holds whole survey) (probe : Probe) :
    Holds whole (survey.probe probe) ∧ ∃ top,
      Answers whole survey probe (survey.dissection.probe probe).1 top ∧
      Leads survey (survey.probe probe) top := by
  have came := survey.dissection.came probe
  unfold Survey.probe
  generalize survey.dissection.probe probe = outcome at came
  cases came with
  | read other sound all =>
      obtain ⟨front, passes⟩ := sound.passes
      rw [follow_stay]
      exact ⟨holds.stay passes, _, holds.answers other sound all, .stays rfl rfl⟩
  | saw rest =>
      rw [show survey.follow survey.dissection = survey from follow_stay]
      refine ⟨holds, survey.dissection.top, ?_, .stays rfl rfl⟩
      exact ⟨fun _ failed => by simp at failed, fun _ _ other => absurd rest other,
        fun _ _ _ _ other => absurd rest other, fun _ => ⟨rfl, rfl⟩⟩
  | @entered top inside other opens =>
      obtain ⟨front, content, passes, rfl⟩ := id opens
      rw [follow_enter]
      refine ⟨holds.enter opens, top, .nothing other, .opened ⟨rfl, rfl, rfl, ?_, ?_⟩⟩
      · exact opens.offset_le
      · rw [passes.offset, List.length_append, ← Nat.add_assoc]
        rfl
  | left other listed =>
      rw [follow_leave listed]
      exact ⟨holds.leave listed, _, .nothing other, .left rfl listed rfl⟩

end Holds

theorem Holds.steps (holds : Holds whole survey) (probes : List Probe) :
    Holds whole (probes.foldl Survey.probe survey) := by
  induction probes generalizing survey with
  | nil => exact holds
  | cons probe probes ih => exact ih (holds.step probe).1

theorem dissection_steps (survey : Survey) (probes : List Probe) :
    (probes.foldl Survey.probe survey).dissection =
      probes.foldl (fun dissection probe => (dissection.probe probe).2) survey.dissection := by
  induction probes generalizing survey with
  | nil => rfl
  | cons probe probes ih => exact ih (survey.probe probe)

/-- After any probes each cursor is in its place, and the next probe answers with what is there. -/
theorem after_within (whole : Octets) (probes : List Probe) (probe : Probe) :
    (after whole probes).dissection =
      probes.foldl (fun dissection probe => (dissection.probe probe).2) (.ofOctets whole) ∧
    Holds whole (after whole probes) ∧ ∃ top,
      Answers whole (after whole probes) probe
        ((after whole probes).dissection.probe probe).1 top ∧
      Leads (after whole probes) (after whole (probes ++ [probe])) top := by
  have holds : Holds whole (after whole probes) := (Holds.ofOctets whole).steps probes
  have next : after whole (probes ++ [probe]) = (after whole probes).probe probe := by
    rw [after, List.foldl_append]
    rfl
  rw [next]
  exact ⟨dissection_steps _ probes, holds, (holds.step probe).2⟩

end Survey
end RoadsideSnmp
