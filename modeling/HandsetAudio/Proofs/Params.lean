import HandsetAudio.Params
import HandsetAudio.Proofs.Text.Integer
import Mathlib.Data.List.Basic

/-!
# Parameter strings

A parameter string is what stands between its semicolons. What a segment gives to which key is
said by `Assigns`, and which value of a key counts by `LastValue`; neither mentions a reader.
Main statements:

> `get?_parse_eq_some_iff`: looking a key up finds its last value.
> `getInt?_parse_eq_some_iff`: as an integer, where the last value spells one in range.

What is read of a text is what is read of its parts, in order (`pairs_append`, `pairs_joined`). So
it is enough to know of one part that it is a pair (`pairs_assignment`) or nothing (`pairs_idle`):

> `parse_joins_and_inverts`: reading respects semicolons and inverts writing.
-/

namespace HandsetAudio

/-- Splitting at a separator is that of the library. -/
theorem Text.splitAt_eq_splitOn (sep : Char) (cs : List Char) :
    splitAt sep cs = cs.splitOn sep := by
  induction cs with
  | nil => rfl
  | cons c cs ih =>
    rw [splitAt, List.splitOn_cons_eq_if_modifyHead, ih]
    by_cases h : c = sep
    · rw [if_pos h, if_pos (beq_iff_eq.2 h)]
    · rw [if_neg h, if_neg (mt beq_iff_eq.1 h)]
      -- a text has at least one piece
      cases hpieces : cs.splitOn sep with
      | nil => exact absurd hpieces (List.splitOn_ne_nil sep cs)
      | cons piece rest => rfl

/-- The pieces between the separators hold none. -/
theorem Text.not_mem_of_mem_splitAt {sep : Char} {cs piece : List Char}
    (h : piece ∈ splitAt sep cs) : sep ∉ piece := by
  induction cs generalizing piece with
  | nil =>
    obtain rfl := List.mem_singleton.1 h
    exact List.not_mem_nil
  | cons c cs ih =>
    rw [splitAt] at h
    split at h
    next =>
      rcases List.mem_cons.1 h with rfl | hrest
      · exact List.not_mem_nil
      · exact ih hrest
    next hc =>
      have hfirst : ∀ {first : List Char}, sep ∉ first → sep ∉ c :: first := fun hnot hmem =>
        (List.mem_cons.1 hmem).elim (fun heq => hc heq.symm) hnot
      cases hpieces : splitAt sep cs with
      | nil =>
        rw [hpieces] at h
        obtain rfl := List.mem_singleton.1 h
        exact hfirst List.not_mem_nil
      | cons first rest =>
        rw [hpieces] at h ih
        rcases List.mem_cons.1 h with rfl | hrest
        · exact hfirst (ih List.mem_cons_self)
        · exact ih (List.mem_cons_of_mem _ hrest)

namespace Params

/-- The segments of a text: what stands between its semicolons. -/
def segments (text : String) : List (List Char) := text.toList.splitOn ';'

/-- The segment gives the key a value, the empty one if there is no `=`. -/
def Assigns (segment : List Char) (key value : String) : Prop :=
  '=' ∉ key.toList ∧
    (segment = key.toList ++ '=' :: value.toList ∨ segment = key.toList ∧ value = "")

/-- The last segment of a text that gives the key a value gives it this one. -/
def LastValue (text key value : String) : Prop :=
  ∃ before segment after, segments text = before ++ segment :: after ∧
    Assigns segment key value ∧ ∀ s ∈ after, ∀ v, ¬Assigns s key v

/-! ## Segments -/

/-- Around a semicolon stand the segments of both sides. -/
theorem segments_append (a b : String) : segments (a ++ ";" ++ b) = segments a ++ segments b := by
  have htext : (a ++ ";" ++ b).toList = a.toList ++ ';' :: b.toList := by simp
  rw [segments, htext, List.splitOn_append_cons_self]
  rfl

/-- A text without a semicolon is one segment. -/
theorem segments_of_not_mem {text : String} (h : ';' ∉ text.toList) :
    segments text = [text.toList] := List.splitOn_eq_singleton h

/-- The first `=` of a segment ends its key. -/
theorem assigns_splitFirst (segment : List Char) :
    Assigns segment (String.ofList (Text.splitFirst '=' segment).1)
      (String.ofList (Text.splitFirst '=' segment).2) := by
  have hsplit : segment.takeWhile (· != '=') ++ segment.dropWhile (· != '=') = segment :=
    List.takeWhile_append_dropWhile
  simp only [Assigns, Text.splitFirst, String.toList_ofList]
  refine ⟨?_, ?_⟩
  · intro hmem
    exact absurd (List.mem_takeWhile_imp hmem) (by decide)
  · cases hrest : segment.dropWhile (· != '=') with
    | nil =>
      rw [hrest, List.append_nil] at hsplit
      exact .inr ⟨hsplit.symm, rfl⟩
    | cons c rest =>
      -- what is left starts with the `=` itself
      have hc : (c != '=') = false := by
        have hne : segment.dropWhile (· != '=') ≠ [] := by
          rw [hrest]
          exact List.cons_ne_nil c rest
        have hhead := List.head_dropWhile_not (· != '=') hne
        simpa only [hrest, List.head_cons] using hhead
      rw [bne_eq_false_iff_eq] at hc
      rw [hrest, hc] at hsplit
      exact .inl hsplit.symm

/-- A segment gives a value to one key at most, and at most one. -/
theorem Assigns.eq_splitFirst {segment : List Char} {key value : String}
    (h : Assigns segment key value) :
    Text.splitFirst '=' segment = (key.toList, value.toList) := by
  obtain ⟨hkey, hsegment⟩ := h
  have hall : ∀ c ∈ key.toList, (c != '=') = true := by
    intro c hc
    rw [bne_iff_ne]
    rintro rfl
    exact hkey hc
  rcases hsegment with rfl | ⟨rfl, rfl⟩
  · rw [Text.splitFirst, List.takeWhile_append_of_pos hall, List.dropWhile_append_of_pos hall]
    simp
  · have hdrop : key.toList.dropWhile (· != '=') = [] := List.dropWhile_eq_nil_iff.2 hall
    have htake : key.toList.takeWhile (· != '=') = key.toList := List.takeWhile_eq_self_iff.2 hall
    rw [Text.splitFirst, hdrop, htake]
    rfl

/-- The pair of a segment is the value that it gives to a key, unless the key is empty. -/
theorem segmentPair?_eq_some_iff {segment : List Char} {key value : String} :
    segmentPair? segment = some (key, value) ↔ key ≠ "" ∧ Assigns segment key value := by
  have hassigns := assigns_splitFirst segment
  constructor
  · intro h
    unfold segmentPair? at h
    simp only at h
    split at h
    next => cases h
    next hsome =>
      obtain ⟨rfl, rfl⟩ := Prod.mk.inj (Option.some.inj h)
      refine ⟨?_, hassigns⟩
      intro hempty
      have hnil : (Text.splitFirst '=' segment).1 = [] := by
        rw [← String.toList_ofList (l := (Text.splitFirst '=' segment).1), hempty]
        rfl
      exact hsome hnil
  · rintro ⟨hkey, hgives⟩
    have hne : key.toList ≠ [] := fun hnil => hkey (String.toList_eq_nil_iff.1 hnil)
    unfold segmentPair?
    rw [hgives.eq_splitFirst]
    simp only [if_neg hne, String.ofList_toList]

theorem pairs_parse (text : String) :
    (parse text).pairs = (segments text).filterMap segmentPair? := by
  rw [parse, Text.splitAt_eq_splitOn]
  rfl

/-! ## Looking a key up -/

/-- **Looking a key up** in a parameter string finds its last value. -/
theorem get?_parse_eq_some_iff {text key value : String} (hkey : key ≠ "") :
    (parse text).get? key = some value ↔ LastValue text key value := by
  have hkept : ∀ {segs : List (List Char)} {v : String},
      (key, v) ∈ segs.filterMap segmentPair? ↔ ∃ s ∈ segs, Assigns s key v := by
    intro segs v
    rw [List.mem_filterMap]
    refine exists_congr fun s => and_congr_right fun _ => ?_
    rw [segmentPair?_eq_some_iff, and_iff_right hkey]
  rw [get?, pairs_parse, Option.map_eq_some_iff]
  constructor
  · rintro ⟨⟨k, v⟩, hfind, rfl⟩
    obtain ⟨hk, later, earlier, hreverse, hlater⟩ := List.find?_eq_some_iff_append.1 hfind
    obtain rfl : k = key := beq_iff_eq.1 hk
    have hpairs : (segments text).filterMap segmentPair? =
        earlier.reverse ++ (k, v) :: later.reverse := by
      rw [← List.reverse_reverse ((segments text).filterMap segmentPair?), hreverse]
      simp
    obtain ⟨before, rest, hsegments, -, hrest⟩ := List.filterMap_eq_append_iff.1 hpairs
    obtain ⟨skipped, segment, after, hsplit, -, hpair, hafter⟩ := List.filterMap_eq_cons_iff.1 hrest
    refine ⟨before ++ skipped, segment, after, ?_, (segmentPair?_eq_some_iff.1 hpair).2, ?_⟩
    · rw [hsegments, hsplit, List.append_assoc]
    · intro s hs v' hassigns
      have hmem : (k, v') ∈ later.reverse := by
        rw [← hafter]
        exact hkept.2 ⟨s, hs, hassigns⟩
      have hother := hlater (k, v') (List.mem_reverse.1 hmem)
      rw [beq_self_eq_true] at hother
      cases hother
  · rintro ⟨before, segment, after, hsegments, hassigns, hafter⟩
    refine ⟨(key, value), ?_, rfl⟩
    have hpair := segmentPair?_eq_some_iff.2 ⟨hkey, hassigns⟩
    have hnone : (after.filterMap segmentPair?).reverse.find? (fun p => p.1 == key) = none := by
      rw [List.find?_eq_none]
      rintro ⟨k, v⟩ hmem hk
      obtain rfl : k = key := beq_iff_eq.1 hk
      obtain ⟨s, hs, hgives⟩ := hkept.1 (List.mem_reverse.1 hmem)
      exact hafter s hs v hgives
    rw [hsegments, List.filterMap_append, List.filterMap_cons_some hpair, List.reverse_append,
      List.reverse_cons, List.append_assoc, List.find?_append, hnone]
    simp

/-- The last value of a key is one. -/
theorem LastValue.unique {text key v v' : String} (hkey : key ≠ "")
    (h : LastValue text key v) (h' : LastValue text key v') : v = v' := by
  rw [← get?_parse_eq_some_iff hkey] at h h'
  exact Option.some.inj (h.symm.trans h')

/-- As an integer, a key has the one that its last value spells, if that is in range. -/
theorem getInt?_parse_eq_some_iff {text key : String} (hkey : key ≠ "") {z : Int} :
    (parse text).getInt? key = some z ↔
      ∃ v, LastValue text key v ∧ Text.Spells v z ∧ Text.InInt64 z := by
  rw [getInt?, Option.bind_eq_some_iff]
  refine exists_congr fun v => ?_
  rw [get?_parse_eq_some_iff hkey, Text.int64?_eq_some_iff]

/-- An assignment that none of the segments behind it repeats gives the last value. -/
theorem lastValue_append (before : String) {key value after : String} (hkey : '=' ∉ key.toList)
    (hwhole : ';' ∉ (key ++ "=" ++ value).toList)
    (hafter : ∀ s ∈ segments after, ∀ v, ¬Assigns s key v) :
    LastValue (before ++ ";" ++ (key ++ "=" ++ value) ++ ";" ++ after) key value := by
  refine ⟨segments before, (key ++ "=" ++ value).toList, segments after, ?_, ⟨hkey, .inl ?_⟩,
    hafter⟩
  · rw [segments_append, segments_append, segments_of_not_mem hwhole, List.append_assoc]
    rfl
  · simp

/-! ## Texts side by side -/

/-- **Around a semicolon** stand the pairs of both sides. -/
theorem pairs_append (a b : String) :
    (parse (a ++ ";" ++ b)).pairs = (parse a).pairs ++ (parse b).pairs := by
  rw [pairs_parse, pairs_parse, pairs_parse, segments_append, List.filterMap_append]

/-- Where later pairs have the key, their value counts. -/
theorem get?_append (earlier later : List (String × String)) (key : String) :
    get? ⟨earlier ++ later⟩ key = (get? ⟨later⟩ key).or (get? ⟨earlier⟩ key) := by
  rw [get?, get?, get?, List.reverse_append, List.find?_append, Option.map_or]

/-- Parts as one text, with semicolons between them. -/
def joined (parts : List String) : String := String.intercalate ";" parts

theorem pairs_joined (parts : List String) :
    (parse (joined parts)).pairs = parts.flatMap fun part => (parse part).pairs := by
  induction parts with
  | nil => rfl
  | cons part parts ih =>
    cases parts with
    | nil =>
      rw [joined, String.intercalate_singleton]
      exact (List.append_nil _).symm
    | cons next rest =>
      rw [joined, String.intercalate_cons_cons, pairs_append]
      exact congrArg ((parse part).pairs ++ ·) ih

/-! ## One part -/

/-- A pair that a parameter string can hold. -/
structure Proper (pair : String × String) : Prop where
  key_ne_empty : pair.1 ≠ ""
  equals_not_mem_key : '=' ∉ pair.1.toList
  semicolon_not_mem_key : ';' ∉ pair.1.toList
  semicolon_not_mem_value : ';' ∉ pair.2.toList

instance : DecidablePred Proper := fun pair =>
  decidable_of_iff (pair.1 ≠ "" ∧ '=' ∉ pair.1.toList ∧ ';' ∉ pair.1.toList ∧ ';' ∉ pair.2.toList)
    ⟨fun h => ⟨h.1, h.2.1, h.2.2.1, h.2.2.2⟩, fun h => ⟨h.1, h.2, h.3, h.4⟩⟩

/-- The part gives no key a value: it is empty, or its key is. -/
def Idle (part : String) : Prop := part = "" ∨ ∃ value, ';' ∉ value.toList ∧ part = "=" ++ value

/-- What is read is proper. -/
theorem proper_of_mem_parse {text : String} {pair : String × String}
    (h : pair ∈ (parse text).pairs) : Proper pair := by
  obtain ⟨segment, hsegment, hpair⟩ := List.mem_filterMap.1 h
  have hsemicolon : ';' ∉ segment := Text.not_mem_of_mem_splitAt hsegment
  obtain ⟨hkey, hequals, rfl | ⟨rfl, hvalue⟩⟩ := segmentPair?_eq_some_iff.1 hpair
  · rw [List.mem_append, List.mem_cons, not_or, not_or] at hsemicolon
    exact ⟨hkey, hequals, hsemicolon.1, hsemicolon.2.2⟩
  · refine ⟨hkey, hequals, hsemicolon, ?_⟩
    rw [hvalue]
    exact List.not_mem_nil

/-- A text without a semicolon is read as one segment. -/
theorem pairs_of_not_mem {text : String} (h : ';' ∉ text.toList) :
    (parse text).pairs = (segmentPair? text.toList).toList := by
  rw [pairs_parse, segments_of_not_mem h]
  cases hpair : segmentPair? text.toList with
  | none => exact List.filterMap_cons_none hpair
  | some pair => exact List.filterMap_cons_some hpair

/-- A proper pair that is written is read. -/
theorem pairs_assignment {pair : String × String} (h : Proper pair) :
    (parse (pair.1 ++ "=" ++ pair.2)).pairs = [pair] := by
  have htext : (pair.1 ++ "=" ++ pair.2).toList = pair.1.toList ++ '=' :: pair.2.toList := by simp
  have hwhole : ';' ∉ (pair.1 ++ "=" ++ pair.2).toList := by
    rw [htext, List.mem_append, List.mem_cons, not_or, not_or]
    exact ⟨h.semicolon_not_mem_key, by decide, h.semicolon_not_mem_value⟩
  have hpair : segmentPair? (pair.1 ++ "=" ++ pair.2).toList = some pair :=
    segmentPair?_eq_some_iff.2 ⟨h.key_ne_empty, h.equals_not_mem_key, .inl htext⟩
  rw [pairs_of_not_mem hwhole, hpair]
  rfl

/-- Of an idle part nothing is read. -/
theorem pairs_idle {part : String} (h : Idle part) : (parse part).pairs = [] := by
  rcases h with rfl | ⟨value, hvalue, rfl⟩
  · rfl
  · have htext : ("=" ++ value).toList = '=' :: value.toList := by simp
    have hwhole : ';' ∉ ("=" ++ value).toList := by
      rw [htext, List.mem_cons, not_or]
      exact ⟨by decide, hvalue⟩
    rw [pairs_of_not_mem hwhole, htext]
    rfl

/-! ## Reading and writing -/

/-- A text is read as the pairs that are read of it. -/
theorem parse_eq_iff {text : String} {p : Params} : parse text = p ↔ (parse text).pairs = p.pairs :=
  ⟨congrArg pairs, congrArg mk⟩

/-- What is written is read. -/
theorem parse_render {p : Params} (h : ∀ pair ∈ p.pairs, Proper pair) : parse p.render = p := by
  rw [parse_eq_iff]
  calc (parse p.render).pairs
    _ = (p.pairs.map fun pair => pair.1 ++ "=" ++ pair.2).flatMap fun part =>
          (parse part).pairs := pairs_joined _
    _ = p.pairs.flatMap fun pair => (parse (pair.1 ++ "=" ++ pair.2)).pairs := List.flatMap_map ..
    _ = p.pairs.flatMap fun pair => [pair] := List.flatMap_congr fun pair hmem =>
          pairs_assignment (h pair hmem)
    _ = p.pairs := List.flatMap_singleton' _

/-- Between other parts, an idle one makes no difference. -/
theorem parse_insert_idle (before after : List String) {part : String} (h : Idle part) :
    parse (joined (before ++ part :: after)) = parse (joined (before ++ after)) := by
  rw [parse_eq_iff, pairs_joined, pairs_joined, List.flatMap_append, List.flatMap_append,
    List.flatMap_cons, pairs_idle h, List.nil_append]

/-- **Reading respects semicolons and inverts writing.** Two texts with a semicolon between them
have the pairs of both, in order, and a key has its value in the second one if it has one there.
Every pair that is read is proper; every list of proper pairs is read as it was written; and parts
that are empty, or have an empty key, may stand anywhere. -/
theorem parse_joins_and_inverts :
    (∀ a b, (parse (a ++ ";" ++ b)).pairs = (parse a).pairs ++ (parse b).pairs ∧
      ∀ key, (parse (a ++ ";" ++ b)).get? key = ((parse b).get? key).or ((parse a).get? key)) ∧
    (∀ text, ∀ pair ∈ (parse text).pairs, Proper pair) ∧
    (∀ p : Params, (∀ pair ∈ p.pairs, Proper pair) → parse p.render = p) ∧
    ∀ before after part, Idle part →
      parse (joined (before ++ part :: after)) = parse (joined (before ++ after)) := by
  refine ⟨fun a b => ⟨pairs_append a b, fun key => ?_⟩, fun text pair => proper_of_mem_parse,
    fun p => parse_render, fun before after part => parse_insert_idle before after⟩
  have hboth : parse (a ++ ";" ++ b) = ⟨(parse a).pairs ++ (parse b).pairs⟩ :=
    parse_eq_iff.2 (pairs_append a b)
  rw [hboth, get?_append]

/-- A value that holds `=`, a key that comes twice, a key without a value, a name that is not ASCII;
and a part with an empty key among them. -/
theorem parse_joins_and_inverts_repeated_key :
    let p : Params := ⟨[("routing", "2"), ("größe", "a=b"), ("flag", ""), ("routing", "8")]⟩
    p.render = "routing=2;größe=a=b;flag=;routing=8" ∧ parse p.render = p ∧
      parse "routing=2;=3;;flag" = parse "routing=2;flag" ∧
      (parse ("routing=2;größe=1" ++ ";" ++ "größe=2;flag")).get? "größe" = some "2" ∧
      (parse ("routing=2;größe=1" ++ ";" ++ "größe=2;flag")).get? "routing" = some "2" := by
  intro p
  obtain ⟨happend, hproper, hrender, hidle⟩ := parse_joins_and_inverts
  have hempty : parse "routing=2;=3;;flag" = parse "routing=2;=3;flag" :=
    hidle ["routing=2", "=3"] ["flag"] "" (.inl rfl)
  have hkeyless : parse "routing=2;=3;flag" = parse "routing=2;flag" :=
    hidle ["routing=2"] ["flag"] "=3" (.inr ⟨"3", by decide, rfl⟩)
  refine ⟨by decide, hrender p (by decide), hempty.trans hkeyless, ?_, ?_⟩
  · rw [(happend _ _).2]
    decide
  · rw [(happend _ _).2]
    decide

end Params

end HandsetAudio
