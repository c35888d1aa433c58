import HandsetAudio.Proofs.Device.Paths
import HandsetAudio.Proofs.Params

/-!
# Routing by parameter strings

A parameter string routes a stream's path to the devices of a mask, which callers write as an
unsigned number or sign-extended, somewhere among other parameters. Main statement:

> `routing_decoded`: the last value of the key `routing`, if it spells a signed 64-bit integer,
> reroutes the path of the stream to its half of that integer's low 32 bits; any other text
> changes nothing. Either way the call succeeds.
-/

namespace HandsetAudio

/-- Applies a parameter string to a stream of a direction. -/
def Operation.streamParameters : Path → StreamId → String → Operation
  | .output, i, text => .setOutputParameters i text
  | .input, i, text => .setInputParameters i text

namespace DeviceSet

/-- The integer stands for the mask: as an unsigned number or, where the top bit is set, as
the sign-extended one. -/
def Denotes (z : Int) (m : BitVec 32) : Prop :=
  z = m.toNat ∨ m.msb = true ∧ z = m.toNat - 2 ^ 32

/-- A set depends on the low 32 bits of an integer only. -/
theorem ofInt_congr {z z' : Int} (h : z % 2 ^ 32 = z' % 2 ^ 32) : ofInt z = ofInt z' := by
  refine congrArg DeviceSet.mk (BitVec.eq_of_toNat_eq ?_)
  have hpow : ((2 ^ 32 : Nat) : Int) = 2 ^ 32 := rfl
  rw [BitVec.toNat_ofInt, BitVec.toNat_ofInt, hpow, h]

/-- Both encodings of a mask name its set. -/
theorem ofInt_of_denotes {z : Int} {m : BitVec 32} (h : Denotes z m) : ofInt z = ⟨m⟩ := by
  refine congrArg DeviceSet.mk (BitVec.eq_of_toNat_eq ?_)
  have hlt := m.isLt
  rw [BitVec.toNat_ofInt]
  rcases h with rfl | ⟨-, rfl⟩ <;> omega

/-- Both encodings of a mask fit into 64 bits. -/
theorem Denotes.inInt64 {z : Int} {m : BitVec 32} (h : Denotes z m) : Text.InInt64 z := by
  have hlt := m.isLt
  unfold Text.InInt64
  rcases h with rfl | ⟨-, rfl⟩ <;> omega

end DeviceSet

namespace Device

/-! ## What a text routes to -/

/-- The last value of the key, where it spells an integer in range, decides. -/
theorem routedDevices?_of_spells {text v : String} {z : Int}
    (hlast : Params.LastValue text "routing" v) (hspells : Text.Spells v z)
    (hrange : Text.InInt64 z) : routedDevices? text = some (DeviceSet.ofInt z) := by
  have hread : (Params.parse text).getInt? Params.routingKey = some z :=
    (Params.getInt?_parse_eq_some_iff (by decide)).2 ⟨v, hlast, hspells, hrange⟩
  rw [routedDevices?, hread, Option.map_some]

/-- A text routes nowhere if the last value of the key, or the lack of one, spells nothing. -/
theorem routedDevices?_eq_none {text : String}
    (hnone : ∀ v z, Params.LastValue text "routing" v → Text.Spells v z → ¬Text.InInt64 z) :
    routedDevices? text = none := by
  rw [routedDevices?, Option.map_eq_none_iff, Option.eq_none_iff_forall_ne_some]
  intro z hread
  obtain ⟨v, hlast, hspells, hrange⟩ := (Params.getInt?_parse_eq_some_iff (by decide)).1 hread
  exact hnone v z hlast hspells hrange

/-! ## Streams -/

variable {σ μ : Type} [ModemLink μ]

/-- Reroutes a path to its half of some devices. -/
def reroute (d : Device σ μ) : Path → DeviceSet → Bool → Device σ μ
  | .output, devices, on => d.rerouteOutput devices on
  | .input, devices, on => d.rerouteInput devices on

/-- Rerouting looks at no other half. -/
theorem reroute_half (d : Device σ μ) (p : Path) (devices : DeviceSet) (on : Bool) :
    d.reroute p (p.half devices) on = d.reroute p devices on := by
  cases p with
  | output =>
    show d.rerouteOutput devices.outputs on = d.rerouteOutput devices on
    have hhalf : devices.outputs.outputs = devices.outputs := Path.half_half .output devices
    simp only [rerouteOutput, hhalf]
  | input =>
    show d.rerouteInput devices.inputs on = d.rerouteInput devices on
    have hhalf : devices.inputs.inputs = devices.inputs := Path.half_half .input devices
    simp only [rerouteInput, hhalf]

variable [PcmDriver σ]

/-- A parameter string on a stream that a client has is a rerouting of its path, or nothing. -/
theorem step_streamParameters (d : Device σ μ) {p : Path} {i : StreamId}
    (hheld : (d.line p).held i = true) (text : String) :
    d.step (.streamParameters p i text) =
      (.ok .done, (routedDevices? text).elim d fun devices =>
        d.reroute p devices ((d.line p).running i)) := by
  cases p with
  | output =>
    obtain ⟨s, hs, -⟩ := exists_heldOutput hheld
    simp only [Operation.streamParameters, step, onOutput, hs, setOutputParameters, running_output]
    cases routedDevices? text <;> rfl
  | input =>
    obtain ⟨s, hs, -⟩ := exists_heldInput hheld
    simp only [Operation.streamParameters, step, onInput, hs, setInputParameters, running_input]
    cases routedDevices? text <;> rfl

/-- **Routing by parameters**, on a stream of either direction that a client has. Whatever
other parameters stand before it, and after it unless they route again, the value of `routing`
reroutes the path of the stream to its half of the mask that the value spells in either
encoding. A text whose last `routing` value spells no signed 64-bit integer, or that has none,
changes nothing. And of an integer only its value modulo `2 ^ 32` counts. -/
theorem routing_decoded (d : Device σ μ) {p : Path} {i : StreamId}
    (hheld : (d.line p).held i = true) :
    (∀ (m : BitVec 32) (z : Int) (before value after : String),
      DeviceSet.Denotes z m → Text.Spells value z →
      (∀ s ∈ Params.segments after, ∀ v, ¬Params.Assigns s "routing" v) →
      d.step (.streamParameters p i (before ++ ";routing=" ++ value ++ ";" ++ after)) =
        (.ok .done, d.reroute p (p.half ⟨m⟩) ((d.line p).running i))) ∧
    (∀ text, (∀ v z, Params.LastValue text "routing" v → Text.Spells v z → ¬Text.InInt64 z) →
      d.step (.streamParameters p i text) = (.ok .done, d)) ∧
    ∀ text text' v v' z z', Params.LastValue text "routing" v → Text.Spells v z →
      Params.LastValue text' "routing" v' → Text.Spells v' z' →
      Text.InInt64 z → Text.InInt64 z' → z % 2 ^ 32 = z' % 2 ^ 32 →
      d.step (.streamParameters p i text) = d.step (.streamParameters p i text') := by
  refine ⟨?_, ?_, ?_⟩
  · intro m z before value after hdenotes hspells hafter
    have hwhole : ';' ∉ ("routing" ++ "=" ++ value).toList := by
      rw [String.toList_append, List.mem_append]
      rintro (hkey | hvalue)
      · exact absurd hkey (by decide)
      · -- a spelling holds blanks, digits and a sign
        rcases hspells.mem hvalue with h | h | h | h <;> exact absurd h (by decide)
    have htext : before ++ ";routing=" ++ value ++ ";" ++ after =
        before ++ ";" ++ ("routing" ++ "=" ++ value) ++ ";" ++ after := by
      have hkey : ";routing=" = ";" ++ ("routing" ++ "=") := rfl
      rw [hkey]
      simp only [String.append_assoc]
    have hlast := Params.lastValue_append before (by decide) hwhole hafter
    rw [← htext] at hlast
    rw [d.step_streamParameters hheld, routedDevices?_of_spells hlast hspells hdenotes.inInt64,
      DeviceSet.ofInt_of_denotes hdenotes, Option.elim_some, reroute_half]
  · intro text hnone
    rw [d.step_streamParameters hheld, routedDevices?_eq_none hnone, Option.elim_none]
  · intro text text' v v' z z' hlast hspells hlast' hspells' hrange hrange' hmod
    rw [d.step_streamParameters hheld, d.step_streamParameters hheld,
      routedDevices?_of_spells hlast hspells hrange,
      routedDevices?_of_spells hlast' hspells' hrange', DeviceSet.ofInt_congr hmod]

/-- The default input and the earpiece in one mask, sign-extended and between blanks: an output
stream goes to the earpiece. -/
theorem routing_decoded_sign_extended :
    let d := inSoftware.play [.operation (.openOutput .speaker)]
    (d.line .output).held 0 = true ∧ Text.Spells " -02147483647 " (-2147483647) ∧
      DeviceSet.Denotes (-2147483647) 0x80000001 ∧
      d.step (.setOutputParameters 0 "screen=on;routing= -02147483647 ;flag") =
        (.ok .done, d.rerouteOutput .earpiece false) ∧
      (d.rerouteOutput .earpiece false).routing.devices ≠ d.routing.devices := by
  intro d
  have hheld : (d.line .output).held 0 = true := by decide +kernel
  have hblank : ∀ c ∈ [' '], Text.isBlank c = true := List.all_eq_true.1 rfl
  have hnumeral : Text.Numeral "02147483647".toList 2147483647 :=
    ⟨by decide, List.all_eq_true.1 rfl, by decide⟩
  have hspells : Text.Spells " -02147483647 " (-2147483647) :=
    ⟨[' '], "-02147483647".toList, [' '], rfl, hblank, hblank, .minus hnumeral⟩
  have hdenotes : DeviceSet.Denotes (-2147483647) 0x80000001 := .inr ⟨by decide, by decide⟩
  have hafter : ∀ s ∈ Params.segments "flag", ∀ v, ¬Params.Assigns s "routing" v := by
    intro s hs v hassigns
    rw [Params.segments_of_not_mem (by decide), List.mem_singleton] at hs
    have hsplit := hassigns.eq_splitFirst
    rw [hs] at hsplit
    exact absurd (Prod.mk.inj hsplit).1 (by decide)
  have hstep :=
    (routing_decoded d hheld).1 0x80000001 _ "screen=on" _ "flag" hdenotes hspells hafter
  exact ⟨hheld, hspells, hdenotes, hstep, by decide +kernel⟩

end Device

end HandsetAudio
