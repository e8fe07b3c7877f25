import R2N.Config.Shared
import R2N.Lib.Checked
import R2N.Lib.Text
import R2N.Policy

/-!
# Port specifications

`r2n rules add --src-port … --dst-port …`: the command line reads a text of ports and ranges
separated by commas, and the rule it builds carries them to the policy of the daemon.  The reader
skips blank parts, and to the policy a rule without ranges is a rule for every port.

* `parsePortRanges` — the reader.
* `Written` — the ports a text names, read off the text.
* **`port_spec_iff`** — a rule matches the ports its text names exactly if the text names any.
-/

namespace R2N

open Text (Numeral isWhitespace parseUnsigned splitOnce trimBy)

/-! ## The reader -/

inductive PortRangeError where
  /-- The error of `str::parse::<u16>`. -/
  | parse (error : Text.ParseIntError)
  /-- "invalid port range: {part}". -/
  | invalidRange (part : String)
deriving DecidableEq

/-- `str::parse::<u16>`. -/
def parsePort (text : List Char) : Except PortRangeError UInt16 :=
  match parseUnsigned (2 ^ 16) text with
  | .ok port => .ok (UInt16.ofNat port)
  | .error e => .error (.parse e)

/-- The body of the loop: one part, trimmed and not empty. -/
def parsePortRange (part : List Char) : Except PortRangeError PortRange := do
  let (start, stop) ←
    match splitOnce '-' part with
    | some (start, stop) => do
        let start ← parsePort start
        let stop ← parsePort stop
        pure (start, stop)
    | none => do
        let port ← parsePort part
        pure (port, port)
  if stop < start then throw (.invalidRange (String.ofList part))
  else pure { start, stop }

/-- The parts of a text that are read: separated by commas, trimmed, the empty ones left out. -/
def portParts (value : String) : List (List Char) :=
  ((value.toList.splitOn ',').map (trimBy isWhitespace)).filter fun part => !part.isEmpty

/-- `parse_port_ranges`. -/
def parsePortRanges (value : Option String) : Except PortRangeError (List PortRange) :=
  match value with
  | none => .ok []
  | some value => (portParts value).mapM parsePortRange

/-! ## What a text names -/

/-- One port, or a range with both ends. -/
def NamesPort (item : List Char) (port : UInt16) : Prop :=
  Numeral item port.toNat ∨
    ∃ first last : List Char, ∃ start stop : ℕ, item = first ++ '-' :: last ∧
      Numeral first start ∧ Numeral last stop ∧ start ≤ port.toNat ∧ port.toNat ≤ stop

/-- The port is named by one of the parts between commas, which may have blanks around it. -/
def Written (value : String) (port : UInt16) : Prop :=
  ∃ part ∈ value.toList.splitOn ',', ∃ front item back : List Char,
    part = front ++ (item ++ back) ∧ front.all isWhitespace = true ∧
      back.all isWhitespace = true ∧ NamesPort item port

/-- Some part between commas is not blank. -/
def NamesSomething (value : String) : Prop :=
  ∃ part ∈ value.toList.splitOn ',', part.all isWhitespace = false

/-! ## Reading one part -/

lemma parsePort_eq_ok_iff {text : List Char} {port : UInt16} :
    parsePort text = .ok port ↔ Numeral text port.toNat := by
  have hbound : 0 < 2 ^ 16 := by decide
  constructor
  · intro h
    unfold parsePort at h
    cases hparse : parseUnsigned (2 ^ 16) text with
    | error e => rw [hparse] at h; cases h
    | ok n =>
        rw [hparse] at h
        obtain ⟨hnumeral, hlt⟩ := (Text.parseUnsigned_eq_ok_iff hbound).mp hparse
        rw [← Except.ok.inj h, UInt16.toNat_ofNat_of_lt' hlt]
        exact hnumeral
  · intro h
    have hparse := (Text.parseUnsigned_eq_ok_iff hbound).mpr ⟨h, port.toNat_lt⟩
    rw [parsePort, hparse]
    exact congrArg Except.ok UInt16.ofNat_toNat

/-- A range is read from a text with a dash, a single port from one without. -/
lemma parsePortRange_cases {part : List Char} {range : PortRange}
    (h : parsePortRange part = .ok range) :
    (∃ first last, part = first ++ '-' :: last ∧ Numeral first range.start.toNat ∧
      Numeral last range.stop.toNat) ∨
    '-' ∉ part ∧ Numeral part range.start.toNat ∧ range.stop = range.start := by
  unfold parsePortRange at h
  cases hsplit : splitOnce '-' part with
  | none =>
      rw [hsplit] at h
      cases hport : parsePort part with
      | error e => simp [hport] at h
      | ok port =>
          simp only [hport, Checked.ok_bind, Checked.pure_eq_ok] at h
          split_ifs at h
          obtain rfl := Except.ok.inj h
          exact Or.inr ⟨Text.notMem_of_splitOnce_eq_none hsplit, parsePort_eq_ok_iff.mp hport, rfl⟩
  | some halves =>
      obtain ⟨first, last⟩ := halves
      rw [hsplit] at h
      cases hfirst : parsePort first with
      | error e => simp [hfirst] at h
      | ok start =>
          cases hlast : parsePort last with
          | error e => simp [hfirst, hlast] at h
          | ok stop =>
              simp only [hfirst, hlast, Checked.ok_bind, Checked.pure_eq_ok] at h
              split_ifs at h
              obtain rfl := Except.ok.inj h
              exact Or.inl ⟨first, last, (Text.splitOnce_eq_some_iff.mp hsplit).1,
                parsePort_eq_ok_iff.mp hfirst, parsePort_eq_ok_iff.mp hlast⟩

lemma dash_notMem {text : List Char} {n : ℕ} (h : Numeral text n) : '-' ∉ text := fun hdash =>
  (h.mem hdash).elim (by decide) (by decide)

lemma contains_iff (range : PortRange) (port : UInt16) :
    range.contains port = true ↔
      range.start.toNat ≤ port.toNat ∧ port.toNat ≤ range.stop.toNat := by
  rw [PortRange.contains, decide_eq_true_iff, UInt16.le_iff_toNat_le, UInt16.le_iff_toNat_le]

/-- What is read is what is written. -/
lemma contains_iff_names {part : List Char} {range : PortRange}
    (h : parsePortRange part = .ok range) (port : UInt16) :
    range.contains port = true ↔ NamesPort part port := by
  rw [contains_iff]
  rcases parsePortRange_cases h with ⟨first, last, rfl, hfirst, hlast⟩ | ⟨hdash, hpart, hstop⟩
  · constructor
    · rintro ⟨hle, hge⟩
      exact Or.inr ⟨first, last, _, _, rfl, hfirst, hlast, hle, hge⟩
    · rintro (hsingle | ⟨first', last', start, stop, heq, hfirst', hlast', hle, hge⟩)
      · exact absurd (by simp) (dash_notMem hsingle)
      · -- both texts are split at the first dash
        have hsplit := Text.splitOnce_append (dash_notMem hfirst') last'
        rw [← heq, Text.splitOnce_append (dash_notMem hfirst) last] at hsplit
        cases hsplit
        rw [hfirst.unique hfirst', hlast.unique hlast']
        exact ⟨hle, hge⟩
  · rw [hstop]
    constructor
    · rintro ⟨hle, hge⟩
      exact Or.inl (by rwa [le_antisymm hge hle])
    · rintro (hsingle | ⟨first, last, -, -, rfl, -⟩)
      · rw [hpart.unique hsingle]
        exact ⟨le_rfl, le_rfl⟩
      · exact absurd (by simp) hdash

/-! ## Reading the text -/

/-- A digit or a sign is no blank. -/
lemma isWhitespace_item {item : List Char} {port : UInt16} (h : NamesPort item port) :
    ∀ c ∈ item, isWhitespace c = false := by
  have hnumeral : ∀ {text n}, Numeral text n → ∀ c ∈ text, isWhitespace c = false := by
    intro text n hn c hc
    rcases hn.mem hc with hdigit | rfl
    · have hrange : 48 ≤ c.toNat ∧ c.toNat ≤ 57 := by
        simpa [Char.isDigit, UInt32.le_iff_toNat_le] using hdigit
      simp [isWhitespace]
      omega
    · decide
  rcases h with hn | ⟨first, last, _, _, rfl, hfirst, hlast, -⟩
  · exact hnumeral hn
  · intro c hc
    rcases List.mem_append.mp hc with hc | hc
    · exact hnumeral hfirst c hc
    · rcases List.mem_cons.mp hc with rfl | hc
      · decide
      · exact hnumeral hlast c hc

lemma item_ne_nil {item : List Char} {port : UInt16} (h : NamesPort item port) : item ≠ [] := by
  rcases h with hn | ⟨first, last, -, -, rfl, -⟩
  · exact hn.ne_nil
  · simp

lemma mem_portParts {value : String} {item : List Char} :
    item ∈ portParts value ↔
      (∃ part ∈ value.toList.splitOn ',', trimBy isWhitespace part = item) ∧ item ≠ [] := by
  simp [portParts]

/-- A port is named in the text exactly if a part that is read names it. -/
lemma written_iff (value : String) (port : UInt16) :
    Written value port ↔ ∃ item ∈ portParts value, NamesPort item port := by
  constructor
  · rintro ⟨part, hpart, front, item, back, rfl, hfront, hback, hitem⟩
    refine ⟨item, mem_portParts.mpr ⟨⟨_, hpart, ?_⟩, item_ne_nil hitem⟩, hitem⟩
    exact Text.trimBy_of_solid (List.all_eq_true.mp hfront) (isWhitespace_item hitem)
      (List.all_eq_true.mp hback)
  · rintro ⟨item, hmem, hitem⟩
    obtain ⟨⟨part, hpart, rfl⟩, -⟩ := mem_portParts.mp hmem
    obtain ⟨front, back, heq, hfront, hback⟩ := Text.exists_eq_trimBy isWhitespace part
    exact ⟨part, hpart, front, _, back, heq, List.all_eq_true.mpr hfront,
      List.all_eq_true.mpr hback, hitem⟩

lemma namesSomething_iff (value : String) : NamesSomething value ↔ portParts value ≠ [] := by
  constructor
  · rintro ⟨part, hpart, hsolid⟩
    refine List.ne_nil_of_mem (mem_portParts.mpr ⟨⟨part, hpart, rfl⟩, fun hnil => ?_⟩)
    rw [List.all_eq_true.mpr (Text.trimBy_eq_nil_iff.mp hnil)] at hsolid
    cases hsolid
  · intro hparts
    obtain ⟨item, hitem⟩ := List.exists_mem_of_ne_nil _ hparts
    obtain ⟨⟨part, hpart, rfl⟩, hne⟩ := mem_portParts.mp hitem
    refine ⟨part, hpart, Bool.eq_false_iff.mpr fun hall => hne ?_⟩
    exact Text.trimBy_eq_nil_iff.mpr (List.all_eq_true.mp hall)

/-- The ranges read from a text contain the ports it names. -/
lemma any_contains_iff {value : String} {ranges : List PortRange}
    (h : parsePortRanges (some value) = .ok ranges) (port : UInt16) :
    (ranges.any fun range => range.contains port) = true ↔ Written value port := by
  rw [written_iff]
  have hall : List.Forall₂ (fun part range => parsePortRange part = .ok range)
      (portParts value) ranges := Checked.forall₂_of_mapM h
  clear h
  generalize portParts value = parts at hall ⊢
  induction hall with
  | nil => simp
  | cons hpart _ ih =>
      rw [List.any_cons, Bool.or_eq_true, contains_iff_names hpart, List.exists_mem_cons_iff]
      exact or_congr_right ih

lemma ranges_eq_nil_iff {value : String} {ranges : List PortRange}
    (h : parsePortRanges (some value) = .ok ranges) : ranges = [] ↔ ¬ NamesSomething value := by
  have hlength := (Checked.forall₂_of_mapM h).length_eq
  rw [namesSomething_iff, not_not, ← List.length_eq_zero_iff, ← List.length_eq_zero_iff, hlength]

/-! ## Rules -/

/-- The side of a packet an option is about. -/
inductive PortSide where
  | src
  | dst
deriving DecidableEq

namespace PortSide

/-- The ranges of a rule for that side. -/
def ranges : PortSide → TrafficRule → List PortRange
  | src, rule => rule.srcPorts
  | dst, rule => rule.dstPorts

/-- The port of a packet on that side. -/
def port : PortSide → PacketMeta → Option UInt16
  | src, packet => packet.srcPort
  | dst, packet => packet.dstPort

/-- The rule without its ranges for that side. -/
def anyPort : PortSide → TrafficRule → TrafficRule
  | src, rule => { rule with srcPorts := [] }
  | dst, rule => { rule with dstPorts := [] }

/-- The ranges are one condition among the others. -/
lemma matches_eq (side : PortSide) (rule : TrafficRule) (direction : TrafficDirection)
    (packet : PacketMeta) :
    rule.matches direction packet =
      ((side.anyPort rule).matches direction packet &&
        portsMatch (side.ranges rule) (side.port packet)) := by
  have hnone : ∀ port, portsMatch [] port = true := fun _ => rfl
  cases side with
  | src =>
      simp only [TrafficRule.matches, anyPort, ranges, port, hnone, Bool.and_true]
      split_ifs
      · rfl
      · rfl
      · ac_rfl
  | dst =>
      simp only [TrafficRule.matches, anyPort, ranges, port, hnone, Bool.and_true]
      split_ifs <;> rfl

end PortSide

/-- **Port specifications.**  A rule that carries the ranges read from a text and whose other
fields match a packet matches its port if and only if the text names the port, exactly if some
part of the text is not blank. -/
theorem port_spec_iff {value : String} {ranges : List PortRange}
    (hread : parsePortRanges (some value) = .ok ranges) (side : PortSide) {rule : TrafficRule}
    (hranges : side.ranges rule = ranges) (direction : TrafficDirection) {packet : PacketMeta}
    (hothers : (side.anyPort rule).matches direction packet = true) {port : UInt16}
    (hport : side.port packet = some port) :
    (rule.matches direction packet = true ↔ Written value port) ↔ NamesSomething value := by
  rw [side.matches_eq rule, hothers, Bool.true_and, hranges, hport]
  by_cases hsome : NamesSomething value
  · have hne : ranges.isEmpty = false :=
      List.isEmpty_eq_false_iff.mpr fun hnil => (ranges_eq_nil_iff hread).mp hnil hsome
    have hmatch : portsMatch ranges (some port) = ranges.any fun range => range.contains port := by
      simp [portsMatch, hne]
    rw [hmatch, any_contains_iff hread]
    exact iff_of_true Iff.rfl hsome
  · obtain rfl := (ranges_eq_nil_iff hread).mpr hsome
    have hnot : ¬ Written value port := fun hwritten => by
      have hcontains := (any_contains_iff hread port).mpr hwritten
      cases hcontains
    exact iff_of_false (fun hiff => hnot (hiff.mp rfl)) hsome

/-- A rule for any protocol and address, with ranges for the destination. -/
def dstPortRule (ranges : List PortRange) : TrafficRule where
  id := "r"
  enabled := true
  action := .allow
  direction := .both
  srcCidr := none
  dstCidr := none
  protocol := .any
  srcPorts := []
  dstPorts := ranges

/-- A TCP packet to a port. -/
def tcpTo (port : UInt16) : PacketMeta where
  src := .v4 (ByteArr.fill 4 1)
  dst := .v4 (ByteArr.fill 4 2)
  protocol := .tcp
  srcPort := some 1000
  dstPort := some port

/-- A text with a range, read and matched. -/
theorem port_spec_range :
    parsePortRanges (some "22, 80-90") = .ok [⟨22, 22⟩, ⟨80, 90⟩] ∧
    ((dstPortRule [⟨22, 22⟩, ⟨80, 90⟩]).matches .inbound (tcpTo 85) = true ↔
      Written "22, 80-90" 85) := by
  have hread : parsePortRanges (some "22, 80-90") = .ok [⟨22, 22⟩, ⟨80, 90⟩] := by decide +kernel
  refine ⟨hread, (port_spec_iff hread .dst rfl .inbound (by decide) rfl).mpr ?_⟩
  rw [namesSomething_iff]
  decide +kernel

/-- A text without a port in it is a rule for every port. -/
theorem blank_spec_matches :
    parsePortRanges (some " , ") = .ok [] ∧
    (dstPortRule []).matches .inbound (tcpTo 22) = true ∧ ¬ Written " , " 22 := by
  have hread : parsePortRanges (some " , ") = .ok [] := by decide +kernel
  refine ⟨hread, by decide, fun hwritten => ?_⟩
  have hcontains := (any_contains_iff hread 22).mpr hwritten
  cases hcontains

end R2N
