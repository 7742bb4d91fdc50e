import BtDaemon.Foundation.KeySort
import BtDaemon.Foundation.Text
import Mathlib.Data.List.Infix

/-!
# The remembered presentation of a device

What the icon, the model and the batteries of a paired device have shown so far is remembered,
so that a later observation that shows less does not take it back. The device type that is
reported comes from what is stored or, when nothing is, from the remembered icon and batteries.
-/

namespace BtDaemon.Identity

open KeySort
open Text (eqIgnoreAsciiCase isBlank toAsciiLowercase)

/-! ## What an observation shows -/

structure Battery where
  id : String
  label : String
  component : String
  percentage : UInt8
  charging : Option Bool
  source : String
  confidence : String
  deriving DecidableEq

def bluetoothDevice : String := "Bluetooth device"

def earbuds : String := "Earbuds"

def typeRules : List (List String × String) :=
  [(["headset"], "Headset"), (["headphone"], "Headphones"), (["speaker"], "Speaker"),
    (["audio"], "Audio device"), (["keyboard"], "Keyboard"), (["mouse"], "Mouse"),
    (["game", "joystick"], "Game controller"), (["tablet"], "Tablet"), (["phone"], "Phone"),
    (["computer", "laptop"], "Computer"), (["printer"], "Printer"), (["camera"], "Camera"),
    (["watch", "wearable"], "Wearable")]

def isEarbudComponent (report : Battery) : Bool :=
  ["left", "right"].any fun component ↦ eqIgnoreAsciiCase report.component component

/-- The type that the icon alone stands for. -/
def iconType (icon : Option String) : String :=
  let text := toAsciiLowercase (icon.getD "")
  match typeRules.find? fun rule ↦ rule.1.any fun term ↦ decide (term.toList <:+: text) with
  | some (_, deviceType) => deviceType
  | none => bluetoothDevice

def presentationType (icon : Option String) (battery : List Battery) : String :=
  if battery.any isEarbudComponent then earbuds else iconType icon

def knownComponents : List String := ["left", "right", "case"]

def presentationComponents (battery : List Battery) : List String :=
  knownComponents.filter fun component ↦
    battery.any fun report ↦ eqIgnoreAsciiCase report.component component

def presentationComponentOrder (component : String) : ℕ :=
  if component = "left" then 0
  else if component = "right" then 1
  else if component = "case" then 2
  else 3

def typeConfidence (deviceType : String) : ℕ :=
  if deviceType = earbuds then 3
  else if deviceType = bluetoothDevice then 0
  else if deviceType = "Audio device" then 1
  else 2

/-! ## What is remembered -/

@[ext]
structure RememberedPresentation where
  icon : Option String := none
  deviceType : Option String := none
  modelId : Option String := none
  components : List String := []
  battery : List Battery := []
  deriving DecidableEq

/-- The new text, unless it is missing or blank, and whether it differs. -/
def updateText (target value : Option String) : Option String × Bool :=
  match value.filter fun text ↦ !isBlank text with
  | none => (target, false)
  | some text => if target = some text then (target, false) else (some text, true)

/-- The components with those of the observation, sorted and without equal neighbours. -/
def updateComponents (components : List String) (battery : List Battery) : List String × Bool :=
  let observed := presentationComponents battery
  if observed.isEmpty then (components, false)
  else
    let merged := dedup (sortByKey presentationComponentOrder (components ++ observed))
    if merged = components then (components, false) else (merged, true)

def updateBattery (remembered battery : List Battery) : List Battery × Bool :=
  if battery.isEmpty || remembered == battery then (remembered, false) else (battery, true)

structure Observation where
  icon : Option String
  modelId : Option String
  battery : List Battery

namespace RememberedPresentation

/-- `device_type()` -/
def reportedType (self : RememberedPresentation) : String :=
  self.deviceType.getD (presentationType self.icon self.battery)

def resolvedType (self : RememberedPresentation) (observed : String) : String :=
  if typeConfidence self.reportedType < typeConfidence observed then observed
  else self.reportedType

def updateType (self : RememberedPresentation) (observed : String) : Option String × Bool :=
  let resolved := self.resolvedType observed
  if resolved ≠ bluetoothDevice ∧ self.deviceType ≠ some resolved then (some resolved, true)
  else (self.deviceType, false)

def update (self : RememberedPresentation) (observation : Observation) :
    RememberedPresentation × Bool :=
  let icon := observation.icon.filter fun text ↦ !isBlank text
  let (deviceType, typeChanged) := self.updateType (presentationType icon observation.battery)
  let (newIcon, iconChanged) := updateText self.icon icon
  let (modelId, modelChanged) := updateText self.modelId observation.modelId
  let (components, componentsChanged) := updateComponents self.components observation.battery
  let (battery, batteryChanged) := updateBattery self.battery observation.battery
  (⟨newIcon, deviceType, modelId, components, battery⟩,
    typeChanged || iconChanged || modelChanged || componentsChanged || batteryChanged)

end RememberedPresentation

/-! ## The components -/

theorem presentationComponentOrder_lt (component : String) :
    presentationComponentOrder component < 4 := by
  unfold presentationComponentOrder
  split_ifs <;> decide

/-- The three known components have keys of their own, and every other one has the last key. -/
theorem presentationComponentOrder_iff (component : String) :
    (presentationComponentOrder component = 0 ↔ component = "left") ∧
      (presentationComponentOrder component = 1 ↔ component = "right") ∧
      (presentationComponentOrder component = 2 ↔ component = "case") ∧
      (presentationComponentOrder component = 3 ↔ component ∉ knownComponents) := by
  unfold presentationComponentOrder knownComponents
  split_ifs with hleft hright hcase <;> simp_all

/-- Sort and collapse, which `update_components` does to what it merges. -/
def normalize (components : List String) : List String :=
  dedup (sortByKey presentationComponentOrder components)

/-- The components that no rule knows, in their order. -/
def unknown (components : List String) : List String :=
  ofKey presentationComponentOrder 3 components

theorem normalize_eq (components : List String) :
    normalize components =
      knownComponents.filter (fun component ↦ decide (component ∈ components)) ++
        dedup (unknown components) := by
  have hkeys : ∀ {value : ℕ} {component : String},
      component ∈ ofKey presentationComponentOrder value components →
        presentationComponentOrder component = value :=
    fun hmem ↦ of_decide_eq_true (List.mem_filter.mp hmem).2
  have hsorted : sortByKey presentationComponentOrder components =
      ofKey presentationComponentOrder 0 components ++
        (ofKey presentationComponentOrder 1 components ++
          (ofKey presentationComponentOrder 2 components ++ unknown components)) := by
    rw [sortByKey_eq fun component _ ↦ presentationComponentOrder_lt component]
    simp [List.range_succ, unknown]
  have hleft := fun component ↦ (presentationComponentOrder_iff component).1
  have hright := fun component ↦ (presentationComponentOrder_iff component).2.1
  have hcase := fun component ↦ (presentationComponentOrder_iff component).2.2.1
  rw [normalize, hsorted, dedup_ofKey_append hleft, dedup_ofKey_append hright,
    dedup_ofKey_append hcase, ← List.append_assoc, ← List.append_assoc]
  · congr 1
    simp only [knownComponents, List.filter_cons, List.filter_nil, decide_eq_true_eq]
    split_ifs <;> rfl
  · intro component hmem
    rw [hkeys hmem]
    decide
  · intro component hmem
    rcases List.mem_append.mp hmem with hmem | hmem
    · rw [hkeys hmem]
      decide
    · rw [hkeys hmem]
      decide
  · intro component hmem
    rcases List.mem_append.mp hmem with hmem | hmem
    · rw [hkeys hmem]
      decide
    · rcases List.mem_append.mp hmem with hmem | hmem
      · rw [hkeys hmem]
        decide
      · rw [hkeys hmem]
        decide

theorem mem_normalize {component : String} (hknown : component ∈ knownComponents)
    (components : List String) : component ∈ normalize components ↔ component ∈ components := by
  constructor
  · intro hmem
    exact List.mem_mergeSort.mp ((List.destutter_sublist _ _).subset hmem)
  · intro hmem
    rw [normalize_eq]
    exact List.mem_append_left _ (List.mem_filter.mpr ⟨hknown, decide_eq_true hmem⟩)

theorem unknown_eq_nil {components : List String}
    (hknown : ∀ component ∈ components, component ∈ knownComponents) :
    unknown components = [] := by
  apply List.filter_eq_nil_iff.mpr
  intro component hmem
  have horder := (presentationComponentOrder_iff component).2.2.2
  simpa [horder] using hknown component hmem

/-- What was merged once adds nothing the second time. -/
theorem normalize_normalize_append {components observed : List String}
    (hobserved : ∀ component ∈ observed, component ∈ knownComponents)
    (hmerged : ∀ component ∈ observed, component ∈ components) :
    normalize (normalize components ++ observed) = normalize components := by
  have hsame : ∀ component ∈ knownComponents,
      (component ∈ normalize components ++ observed ↔ component ∈ components) := by
    intro component hknown
    rw [List.mem_append, mem_normalize hknown]
    exact or_iff_left_of_imp (hmerged component)
  have hdedup : unknown (dedup (unknown components)) = dedup (unknown components) :=
    List.filter_eq_self.mpr fun component hmem ↦
      (List.mem_filter.mp ((List.destutter_sublist _ _).subset hmem)).2
  have hunknown : unknown (normalize components ++ observed) = dedup (unknown components) := by
    calc unknown (normalize components ++ observed)
      _ = unknown (knownComponents.filter fun component ↦ decide (component ∈ components)) ++
          unknown (dedup (unknown components)) ++ unknown observed := by
        rw [normalize_eq]
        simp only [unknown, ofKey, List.filter_append]
      _ = dedup (unknown components) := by
        rw [unknown_eq_nil hobserved, hdedup, List.append_nil,
          unknown_eq_nil fun component hmem ↦ (List.mem_filter.mp hmem).1, List.nil_append]
  rw [normalize_eq (normalize components ++ observed), hunknown, dedup_dedup,
    normalize_eq components]
  congr 1
  apply List.filter_congr
  intro component hknown
  rw [← normalize_eq components]
  exact decide_eq_decide.mpr (hsame component hknown)

/-! ## One update -/

/-- The flag says whether the value differs. -/
def Reports {Value : Type} (before : Value) (result : Value × Bool) : Prop :=
  result.2 = true ↔ result.1 ≠ before

theorem Reports.eq_false_iff {Value : Type} {before : Value} {result : Value × Bool}
    (hreports : Reports before result) : result.2 = false ↔ result.1 = before := by
  rw [← Bool.not_eq_true, hreports.not, not_not]

theorem reports_unchanged {Value : Type} (before : Value) : Reports before (before, false) := by
  simp [Reports]

theorem reports_changed {Value : Type} {before after : Value} (hdiffers : after ≠ before) :
    Reports before (after, true) := by
  simpa [Reports] using hdiffers

theorem updateText_reports (target value : Option String) :
    Reports target (updateText target value) := by
  unfold updateText
  split
  · exact reports_unchanged target
  · split
    · exact reports_unchanged target
    · next hdiffers => exact reports_changed (Ne.symm hdiffers)

theorem updateText_again (target value : Option String) :
    updateText (updateText target value).1 value = ((updateText target value).1, false) := by
  unfold updateText
  cases hvalue : value.filter fun text ↦ !isBlank text with
  | none => rfl
  | some text =>
    by_cases hsame : target = some text
    · simp [hsame]
    · simp [hsame]

theorem updateText_cases (target value : Option String) :
    (updateText target value).1 = target ∨
      (updateText target value).1 = value.filter fun text ↦ !isBlank text := by
  unfold updateText
  split
  · exact .inl rfl
  · next hvalue =>
    split
    · exact .inl rfl
    · exact .inr hvalue.symm

theorem updateBattery_reports (remembered battery : List Battery) :
    Reports remembered (updateBattery remembered battery) := by
  unfold updateBattery
  split
  · exact reports_unchanged remembered
  · next hdiffers =>
    apply reports_changed
    rintro rfl
    simp at hdiffers

theorem updateBattery_again (remembered battery : List Battery) :
    updateBattery (updateBattery remembered battery).1 battery =
      ((updateBattery remembered battery).1, false) := by
  unfold updateBattery
  split
  · rfl
  · simp

theorem updateBattery_cases (remembered battery : List Battery) :
    (updateBattery remembered battery).1 = remembered ∨
      (updateBattery remembered battery).1 = battery := by
  unfold updateBattery
  split
  · exact .inl rfl
  · exact .inr rfl

theorem presentationComponents_known (battery : List Battery) :
    ∀ component ∈ presentationComponents battery, component ∈ knownComponents :=
  fun _ hmem ↦ (List.mem_filter.mp hmem).1

theorem updateComponents_reports (components : List String) (battery : List Battery) :
    Reports components (updateComponents components battery) := by
  unfold updateComponents
  dsimp only
  split
  · exact reports_unchanged components
  · split
    · exact reports_unchanged components
    · next hdiffers => exact reports_changed hdiffers

/-- The components are kept when nothing is observed, and else sorted and collapsed with what
is. -/
theorem updateComponents_fst (components : List String) (battery : List Battery) :
    (updateComponents components battery).1 =
      if presentationComponents battery = [] then components
      else normalize (components ++ presentationComponents battery) := by
  unfold updateComponents normalize
  dsimp only
  split
  · next hnone => rw [if_pos (List.isEmpty_iff.mp hnone)]
  · next hsome =>
    rw [if_neg fun hnone ↦ hsome (List.isEmpty_iff.mpr hnone)]
    split
    · next hsame => exact hsame.symm
    · rfl

theorem updateComponents_again (components : List String) (battery : List Battery) :
    updateComponents (updateComponents components battery).1 battery =
      ((updateComponents components battery).1, false) := by
  have hagain : (updateComponents (updateComponents components battery).1 battery).1 =
      (updateComponents components battery).1 := by
    rw [updateComponents_fst (updateComponents components battery).1, updateComponents_fst]
    split
    · rfl
    · exact normalize_normalize_append (presentationComponents_known battery)
        fun _ hmem ↦ List.mem_append_right components hmem
  refine Prod.ext hagain ?_
  have hreports := updateComponents_reports (updateComponents components battery).1 battery
  exact Bool.of_not_eq_true fun hchanged ↦ hreports.mp hchanged hagain

/-! ## The type -/

theorem typeConfidence_eq_zero_iff (deviceType : String) :
    typeConfidence deviceType = 0 ↔ deviceType = bluetoothDevice := by
  unfold typeConfidence
  split_ifs with hearbuds hbluetooth haudio
  · rw [hearbuds]
    decide
  · exact iff_of_true rfl hbluetooth
  · exact iff_of_false (by decide) hbluetooth
  · exact iff_of_false (by decide) hbluetooth

theorem typeConfidence_eq_three_iff (deviceType : String) :
    typeConfidence deviceType = 3 ↔ deviceType = earbuds := by
  unfold typeConfidence
  split_ifs with hearbuds
  · exact iff_of_true rfl hearbuds
  all_goals exact iff_of_false (by decide) hearbuds

theorem typeConfidence_le (deviceType : String) : typeConfidence deviceType ≤ 3 := by
  unfold typeConfidence
  split_ifs <;> decide

/-- Nothing stands for a type when neither the batteries nor the icon do. -/
theorem presentationType_eq_bluetoothDevice_iff (icon : Option String) (battery : List Battery) :
    presentationType icon battery = bluetoothDevice ↔
      battery.any isEarbudComponent = false ∧ iconType icon = bluetoothDevice := by
  unfold presentationType
  cases battery.any isEarbudComponent with
  | false => simp
  | true =>
    refine iff_of_false ?_ (by simp)
    rw [if_pos rfl]
    decide

namespace RememberedPresentation

theorem resolvedType_cases (self : RememberedPresentation) (observed : String) :
    self.resolvedType observed = self.reportedType ∧
        typeConfidence observed ≤ typeConfidence self.reportedType ∨
      self.resolvedType observed = observed ∧
        typeConfidence self.reportedType < typeConfidence observed := by
  unfold resolvedType
  split
  · next hbetter => exact .inr ⟨rfl, hbetter⟩
  · next hworse => exact .inl ⟨rfl, Nat.le_of_not_lt hworse⟩

/-- The resolved type is the better one of the two. -/
theorem le_resolvedType (self : RememberedPresentation) (observed : String) :
    typeConfidence self.reportedType ≤ typeConfidence (self.resolvedType observed) ∧
      typeConfidence observed ≤ typeConfidence (self.resolvedType observed) := by
  rcases self.resolvedType_cases observed with ⟨hsame, hle⟩ | ⟨hnew, hlt⟩
  · rw [hsame]
    exact ⟨Nat.le_refl _, hle⟩
  · rw [hnew]
    exact ⟨Nat.le_of_lt hlt, Nat.le_refl _⟩

theorem bluetoothDevice_of_resolvedType {self : RememberedPresentation} {observed : String}
    (hresolved : self.resolvedType observed = bluetoothDevice) :
    self.reportedType = bluetoothDevice ∧ observed = bluetoothDevice := by
  obtain ⟨hreported, hobserved⟩ := self.le_resolvedType observed
  rw [(typeConfidence_eq_zero_iff _).mpr hresolved] at hreported hobserved
  exact ⟨(typeConfidence_eq_zero_iff _).mp (Nat.le_zero.mp hreported),
    (typeConfidence_eq_zero_iff _).mp (Nat.le_zero.mp hobserved)⟩

theorem updateType_reports (self : RememberedPresentation) (observed : String) :
    Reports self.deviceType (self.updateType observed) := by
  unfold updateType
  dsimp only
  split
  · next hchanged => exact reports_changed (Ne.symm hchanged.2)
  · exact reports_unchanged self.deviceType

/-- A specific type is stored. -/
theorem updateType_fst {self : RememberedPresentation} {observed : String}
    (hspecific : self.resolvedType observed ≠ bluetoothDevice) :
    (self.updateType observed).1 = some (self.resolvedType observed) := by
  unfold updateType
  dsimp only
  split
  · rfl
  · next hsame =>
    by_contra hdiffers
    exact hsame ⟨hspecific, hdiffers⟩

theorem updateType_of_bluetoothDevice {self : RememberedPresentation} {observed : String}
    (hresolved : self.resolvedType observed = bluetoothDevice) :
    self.updateType observed = (self.deviceType, false) :=
  if_neg fun hchanged ↦ hchanged.1 hresolved

/-- The icon that an observation shows, unless it is blank. -/
def shownIcon (observation : Observation) : Option String :=
  observation.icon.filter fun text ↦ !isBlank text

def observedType (observation : Observation) : String :=
  presentationType (shownIcon observation) observation.battery

theorem icon_update (self : RememberedPresentation) (observation : Observation) :
    (self.update observation).1.icon = (updateText self.icon (shownIcon observation)).1 := rfl

theorem deviceType_update (self : RememberedPresentation) (observation : Observation) :
    (self.update observation).1.deviceType = (self.updateType (observedType observation)).1 := rfl

theorem modelId_update (self : RememberedPresentation) (observation : Observation) :
    (self.update observation).1.modelId = (updateText self.modelId observation.modelId).1 := rfl

theorem components_update (self : RememberedPresentation) (observation : Observation) :
    (self.update observation).1.components =
      (updateComponents self.components observation.battery).1 := rfl

theorem battery_update (self : RememberedPresentation) (observation : Observation) :
    (self.update observation).1.battery =
      (updateBattery self.battery observation.battery).1 := rfl

theorem update_snd (self : RememberedPresentation) (observation : Observation) :
    (self.update observation).2 = ((self.updateType (observedType observation)).2 ||
      (updateText self.icon (shownIcon observation)).2 ||
      (updateText self.modelId observation.modelId).2 ||
      (updateComponents self.components observation.battery).2 ||
      (updateBattery self.battery observation.battery).2) := by
  rw [update]
  rfl

/-- An update says that it changed something exactly when it did. -/
theorem update_reports (self : RememberedPresentation) (observation : Observation) :
    Reports self (self.update observation) := by
  have htype := (self.updateType_reports (observedType observation)).eq_false_iff
  have hicon := (updateText_reports self.icon (shownIcon observation)).eq_false_iff
  have hmodel := (updateText_reports self.modelId observation.modelId).eq_false_iff
  have hcomponents := (updateComponents_reports self.components observation.battery).eq_false_iff
  have hbattery := (updateBattery_reports self.battery observation.battery).eq_false_iff
  have hfields : (self.update observation).2 = false ↔ (self.update observation).1 = self := by
    rw [update_snd, RememberedPresentation.ext_iff, icon_update, deviceType_update,
      modelId_update, components_update, battery_update]
    simp only [Bool.or_eq_false_iff, htype, hicon, hmodel, hcomponents, hbattery]
    constructor
    · rintro ⟨⟨⟨⟨htype, hicon⟩, hmodel⟩, hcomponents⟩, hbattery⟩
      exact ⟨hicon, htype, hmodel, hcomponents, hbattery⟩
    · rintro ⟨hicon, htype, hmodel, hcomponents, hbattery⟩
      exact ⟨⟨⟨⟨htype, hicon⟩, hmodel⟩, hcomponents⟩, hbattery⟩
  rw [Reports, Ne, ← hfields, Bool.not_eq_false]

/-- The type that is reported after an update is the better one of the old and the observed. -/
theorem reportedType_update (self : RememberedPresentation) (observation : Observation) :
    (self.update observation).1.reportedType =
      self.resolvedType (observedType observation) := by
  by_cases hresolved : self.resolvedType (observedType observation) = bluetoothDevice
  · obtain ⟨hreported, hobserved⟩ := bluetoothDevice_of_resolvedType hresolved
    rw [reportedType, deviceType_update, updateType_of_bluetoothDevice hresolved, hresolved]
    cases hstored : self.deviceType with
    | some stored =>
      rw [reportedType, hstored] at hreported
      exact hreported
    | none =>
      -- Nothing is stored: the type comes from an icon and from batteries that show none.
      rw [reportedType, hstored] at hreported
      obtain ⟨holdBattery, holdIcon⟩ :=
        (presentationType_eq_bluetoothDevice_iff _ _).mp hreported
      obtain ⟨hnewBattery, hnewIcon⟩ :=
        (presentationType_eq_bluetoothDevice_iff _ _).mp hobserved
      refine (presentationType_eq_bluetoothDevice_iff _ _).mpr ⟨?_, ?_⟩
      · rcases updateBattery_cases self.battery observation.battery with hsame | hsame
        · rw [battery_update, hsame]
          exact holdBattery
        · rw [battery_update, hsame]
          exact hnewBattery
      · rcases updateText_cases self.icon (shownIcon observation) with hsame | hsame
        · rw [icon_update, hsame]
          exact holdIcon
        · rw [icon_update, hsame, shownIcon, Option.filter_filter]
          simpa [shownIcon] using hnewIcon
  · rw [reportedType, deviceType_update, updateType_fst hresolved]
    rfl

/-- The observation is no better than what was made of it. -/
theorem updateType_again (self : RememberedPresentation) (observation : Observation) :
    ((self.update observation).1.updateType (observedType observation)).1 =
      (self.update observation).1.deviceType := by
  have hresolved : (self.update observation).1.resolvedType (observedType observation) =
      self.resolvedType (observedType observation) := by
    rw [resolvedType, reportedType_update]
    exact if_neg (Nat.not_lt_of_le (self.le_resolvedType _).2)
  by_cases hspecific : self.resolvedType (observedType observation) = bluetoothDevice
  · rw [updateType_of_bluetoothDevice (hresolved.trans hspecific)]
  · rw [updateType_fst fun hsame ↦ hspecific (hresolved.symm.trans hsame), hresolved,
      deviceType_update, updateType_fst hspecific]

/-- The same observation again changes nothing. -/
theorem update_again (self : RememberedPresentation) (observation : Observation) :
    (self.update observation).1.update observation = ((self.update observation).1, false) := by
  have hagain : ((self.update observation).1.update observation).1 =
      (self.update observation).1 := by
    refine RememberedPresentation.ext ?_ (self.updateType_again observation) ?_ ?_ ?_
    · rw [icon_update, icon_update, updateText_again]
    · rw [modelId_update, modelId_update, updateText_again]
    · rw [components_update, components_update, updateComponents_again]
    · rw [battery_update, battery_update, updateBattery_again]
  exact Prod.ext hagain ((update_reports _ observation).eq_false_iff.mpr hagain)

/-! ## Sequences of updates -/

/-- What the observations leave of the presentation that was remembered before. -/
def updates (self : RememberedPresentation) (observations : List Observation) :
    RememberedPresentation :=
  observations.foldl (fun remembered observation ↦ (remembered.update observation).1) self

/-- The later presentation says at least as much. -/
structure Improves (before after : RememberedPresentation) : Prop where
  confidence : typeConfidence before.reportedType ≤ typeConfidence after.reportedType
  /-- A specific type is the one with confidence two. -/
  specific : typeConfidence before.reportedType = 2 →
    after.reportedType = before.reportedType ∨ after.reportedType = earbuds
  earbuds : before.reportedType = earbuds → after.reportedType = earbuds
  components : before.components.Sublist after.components

theorem Improves.refl (self : RememberedPresentation) : Improves self self :=
  ⟨Nat.le_refl _, fun _ ↦ .inl rfl, fun hearbuds ↦ hearbuds, List.Sublist.refl _⟩

theorem Improves.trans {first second third : RememberedPresentation}
    (hfirst : Improves first second) (hsecond : Improves second third) :
    Improves first third where
  confidence := Nat.le_trans hfirst.confidence hsecond.confidence
  specific hspecific := by
    rcases hfirst.specific hspecific with hsame | hearbuds
    · rw [← hsame] at hspecific ⊢
      exact hsecond.specific hspecific
    · exact .inr (hsecond.earbuds hearbuds)
  earbuds hearbuds := hsecond.earbuds (hfirst.earbuds hearbuds)
  components := hfirst.components.trans hsecond.components

/-- The components are the known ones that were seen, in their order. -/
def Ordered (components : List String) : Prop :=
  components = knownComponents.filter fun component ↦ decide (component ∈ components)

theorem Ordered.sublist {components : List String} (hordered : Ordered components) :
    components.Sublist knownComponents := by
  rw [hordered]
  exact List.filter_sublist

theorem ordered_normalize {components : List String}
    (hknown : ∀ component ∈ components, component ∈ knownComponents) :
    Ordered (normalize components) ∧
      normalize components =
        knownComponents.filter fun component ↦ decide (component ∈ components) := by
  have hnormal : normalize components =
      knownComponents.filter fun component ↦ decide (component ∈ components) := by
    rw [normalize_eq, unknown_eq_nil hknown]
    exact List.append_nil _
  refine ⟨?_, hnormal⟩
  calc normalize components
    _ = knownComponents.filter fun component ↦ decide (component ∈ components) := hnormal
    _ = knownComponents.filter fun component ↦ decide (component ∈ normalize components) :=
      List.filter_congr fun component hmem ↦
        decide_eq_decide.mpr (mem_normalize hmem components).symm

/-- Ordered components stay so, and none of them is lost. -/
theorem ordered_update {self : RememberedPresentation} (hordered : Ordered self.components)
    (observation : Observation) :
    Ordered (self.update observation).1.components ∧
      self.components.Sublist (self.update observation).1.components := by
  rw [components_update, updateComponents_fst]
  split
  · exact ⟨hordered, List.Sublist.refl _⟩
  · have hknown : ∀ component ∈ self.components ++ presentationComponents observation.battery,
        component ∈ knownComponents := by
      intro component hmem
      rcases List.mem_append.mp hmem with hold | hnew
      · exact hordered.sublist.subset hold
      · exact presentationComponents_known _ component hnew
    obtain ⟨hnormal, hfilter⟩ := ordered_normalize hknown
    refine ⟨hnormal, ?_⟩
    rw [hfilter]
    nth_rewrite 1 [hordered]
    apply List.monotone_filter_right
    intro component hmem
    exact decide_eq_true (List.mem_append_left _ (of_decide_eq_true hmem))

theorem improves_update {self : RememberedPresentation} (hordered : Ordered self.components)
    (observation : Observation) : Improves self (self.update observation).1 where
  confidence := by
    rw [reportedType_update]
    exact (self.le_resolvedType _).1
  specific hspecific := by
    rw [reportedType_update]
    rcases self.resolvedType_cases (observedType observation) with ⟨hsame, -⟩ | ⟨hnew, hbetter⟩
    · exact .inl hsame
    · right
      have hle := typeConfidence_le (observedType observation)
      rw [hnew]
      exact (typeConfidence_eq_three_iff _).mp (by omega)
  earbuds hearbuds := by
    rw [reportedType_update]
    have hbest := (typeConfidence_eq_three_iff _).mpr hearbuds
    have hle := (self.le_resolvedType (observedType observation)).1
    have hbound := typeConfidence_le (self.resolvedType (observedType observation))
    exact (typeConfidence_eq_three_iff _).mp (by omega)
  components := (ordered_update hordered observation).2

theorem improves_updates {self : RememberedPresentation} (hordered : Ordered self.components)
    (observations : List Observation) :
    Ordered (self.updates observations).components ∧ Improves self (self.updates observations) := by
  induction observations generalizing self with
  | nil => exact ⟨hordered, .refl self⟩
  | cons observation rest ih =>
    obtain ⟨hkept, hlater⟩ := ih (ordered_update hordered observation).1
    exact ⟨hkept, (improves_update hordered observation).trans hlater⟩

/-- An update reports exactly what it changes and is done once; from the empty presentation on
the reported type only gets better and the components only get more. -/
theorem presentation_only_improves :
    (∀ (self : RememberedPresentation) observation,
      ((self.update observation).2 = true ↔ (self.update observation).1 ≠ self) ∧
        (self.update observation).1.update observation = ((self.update observation).1, false)) ∧
    ∀ earlier later : List Observation,
      let before := updates {} earlier
      let after := updates {} (earlier ++ later)
      Improves before after ∧ after.components.Sublist ["left", "right", "case"] := by
  refine ⟨fun self observation ↦
    ⟨self.update_reports observation, self.update_again observation⟩, fun earlier later ↦ ?_⟩
  have hordered : Ordered (RememberedPresentation.components {}) := rfl
  obtain ⟨hbefore, -⟩ := improves_updates hordered earlier
  obtain ⟨hafter, himproves⟩ := improves_updates hbefore later
  simp only [updates, List.foldl_append]
  exact ⟨himproves, hafter.sublist⟩

end RememberedPresentation

end BtDaemon.Identity
