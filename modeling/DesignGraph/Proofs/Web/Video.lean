import DesignGraph.Web.Body
import Mathlib.Data.List.TakeWhile
import Mathlib.Tactic.FinCases
/-!
# Recognized videos and their player

The id of a video is found behind the last marker on the first line of an address, which makes the
scan from the left, that tries the rest of the line before the place where it stands, one rule for
all texts: markers may overlap, and the id itself may go on behind the line. An id ends before the
first separator, so that the address of the player, which has the id in its path and once more in
its query, has the fragment and the parameters that it is written with and no others.

## Main definitions

* `DesignGraph.Video.IsMarker`, `DesignGraph.Video.MarkedAt` — markers and where they stand.
* `DesignGraph.Video.IsLastMark` — a marker on the first line that no other one starts behind.
* `DesignGraph.Video.IsUpToSeparator` — the part of a text before its first separator.
* `DesignGraph.Video.queryParameters` — the parameters that are read from an address.
* `DesignGraph.Body.Content.frameAddress?` — the address of the frame that a content is.

## Main results

* `DesignGraph.Video.afterLastMarker?_eq_some_iff` — the scan stops behind the last marker.
* `DesignGraph.Video.queryParameters_writeQuery` — plain parameters are read as they are written.
* `DesignGraph.Video.player_of_last_mark` — the id in an address, and the parameters of its player.
-/

set_option relaxedAutoImplicit false
set_option autoImplicit false

namespace DesignGraph

/-- The address of the frame that a content consists of, if it is one. -/
def Body.Content.frameAddress? (content : Body.Content) : Option String :=
  match content.inner with
  | [.element "iframe" attributes _] => (attributes.lookup "src").join
  | _ => none

namespace Video

/-! ## Markers -/

/-- The texts that an id can follow. -/
inductive IsMarker : List Char → Prop
  | short : IsMarker "youtu.be/".toList
  | version : IsMarker "v/".toList
  | user {c : Char} (hword : isWordChar c = true) : IsMarker ['u', '/', c, '/']
  | embed : IsMarker "embed/".toList
  | watch : IsMarker "watch?v=".toList
  | further : IsMarker "&v=".toList

/-- No word spans two lines. -/
theorem isWordChar_newline : isWordChar '\n' = false := by
  decide +kernel

/-- No marker spans two lines. -/
theorem IsMarker.newline_notMem {marker : List Char} (h : IsMarker marker) : '\n' ∉ marker := by
  cases h with
  | user hword =>
    rename_i c
    have hc : '\n' ≠ c := by
      rintro rfl
      rw [isWordChar_newline] at hword
      cases hword
    simp [hc]
  | _ => decide

/-- A marker has a first character. -/
theorem IsMarker.ne_nil {marker : List Char} (h : IsMarker marker) : marker ≠ [] := by
  cases h <;> simp

/-- A text is split behind a marker exactly if it starts with one. -/
theorem afterMarker?_eq_some_iff {text after : List Char} :
    afterMarker? text = some after ↔ ∃ marker, IsMarker marker ∧ text = marker ++ after := by
  constructor
  · intro h
    unfold afterMarker? at h
    split at h
    case h_1 c rest =>
      split_ifs at h with hword
      cases h
      exact ⟨_, .user hword, rfl⟩
    case h_2 =>
      obtain ⟨marker, hfound, rfl⟩ := Option.map_eq_some_iff.1 h
      have hmem : marker ∈ markers := List.mem_of_find?_eq_some hfound
      have hprefix := List.find?_some hfound
      obtain ⟨rest, rfl⟩ := List.isPrefixOf_iff_prefix.1 hprefix
      refine ⟨marker, ?_, by rw [List.drop_left]⟩
      fin_cases hmem
      exacts [.short, .version, .embed, .watch, .further]
  · rintro ⟨marker, hmarker, rfl⟩
    cases hmarker with
    | user hword => exact if_pos hword
    | _ => rfl

/-! ## The last marker on the first line -/

/-- A marker on the first line of a text, with what stands before it and behind it. -/
structure MarkedAt (text before marker after : List Char) : Prop where
  isMarker : IsMarker marker
  text_eq : text = before ++ (marker ++ after)
  onFirstLine : '\n' ∉ before ++ marker

/-- A marker on the first line of a text that no other one starts behind. -/
structure IsLastMark (text before marker after : List Char) : Prop where
  markedAt : MarkedAt text before marker after
  last : ∀ {before' marker' after'}, MarkedAt text before' marker' after' →
    before'.length ≤ before.length

section Scan

variable {c : Char} {text before marker after : List Char}

/-- Every marker takes up some of its text. -/
theorem not_markedAt_nil : ¬ MarkedAt [] before marker after := by
  rintro ⟨hmarker, heq, -⟩
  have hnil : marker ++ after = [] := (List.append_eq_nil_iff.1 heq.symm).2
  exact hmarker.ne_nil (List.append_eq_nil_iff.1 hnil).1

/-- A marker is at the start of a text or in the rest of it. -/
theorem markedAt_cons_iff :
    MarkedAt (c :: text) before marker after ↔ c ≠ '\n' ∧
      (before = [] ∧ IsMarker marker ∧ c :: text = marker ++ after ∨
        ∃ before', before = c :: before' ∧ MarkedAt text before' marker after) := by
  constructor
  · rintro ⟨hmarker, heq, hline⟩
    cases before with
    | nil =>
      obtain ⟨d, tail, rfl⟩ := List.exists_cons_of_ne_nil hmarker.ne_nil
      cases heq
      exact ⟨fun hc => hline (hc ▸ List.mem_cons_self), .inl ⟨rfl, hmarker, rfl⟩⟩
    | cons d before' =>
      cases heq
      exact ⟨fun hc => hline (hc ▸ List.mem_cons_self),
        .inr ⟨before', rfl, hmarker, rfl, fun h => hline (List.mem_cons_of_mem c h)⟩⟩
  · rintro ⟨hc, ⟨rfl, hmarker, heq⟩ | ⟨before', rfl, hmarker, rfl, hline⟩⟩
    · exact ⟨hmarker, heq, hmarker.newline_notMem⟩
    · refine ⟨hmarker, rfl, fun h => ?_⟩
      rcases List.mem_cons.1 h with h | h
      · exact hc h.symm
      · exact hline h

/-- The scan finds nothing exactly if there is no marker on the first line. -/
theorem afterLastMarker?_eq_none_iff :
    afterLastMarker? text = none ↔ ∀ before marker after, ¬ MarkedAt text before marker after := by
  induction text with
  | nil => simp [afterLastMarker?, not_markedAt_nil]
  | cons c text ih =>
    rw [afterLastMarker?]
    split_ifs with hc
    · simp [markedAt_cons_iff, hc]
    · rw [Option.or_eq_none_iff, ih, Option.eq_none_iff_forall_ne_some]
      simp only [ne_eq, afterMarker?_eq_some_iff, markedAt_cons_iff]
      constructor
      · rintro ⟨hrest, hhere⟩ before marker after ⟨-, ⟨-, h⟩ | ⟨before', -, h⟩⟩
        · exact hhere after ⟨marker, h⟩
        · exact hrest before' marker after h
      · intro h
        exact ⟨fun before marker after hrest =>
            h (c :: before) marker after ⟨hc, .inr ⟨before, rfl, hrest⟩⟩,
          fun after ⟨marker, hhere⟩ => h [] marker after ⟨hc, .inl ⟨rfl, hhere⟩⟩⟩

/-- A last marker in the rest of a line is the last one of the line. -/
theorem IsLastMark.cons (hc : c ≠ '\n') (h : IsLastMark text before marker after) :
    IsLastMark (c :: text) (c :: before) marker after := by
  refine ⟨markedAt_cons_iff.2 ⟨hc, .inr ⟨before, rfl, h.markedAt⟩⟩, fun hother => ?_⟩
  obtain ⟨-, ⟨rfl, -⟩ | ⟨before', rfl, hrest⟩⟩ := markedAt_cons_iff.1 hother
  · exact Nat.zero_le _
  · exact Nat.succ_le_succ (h.last hrest)

/-- **The scan stops behind the last marker on the first line.**

**Proof sketch.** Induction on the text. The rest of the line goes first, and a marker in it starts
behind the one at the start of the text, if there is one; without a marker in the rest, the one at
the start is the only one. -/
theorem afterLastMarker?_eq_some_iff :
    afterLastMarker? text = some after ↔
      ∃ before marker, IsLastMark text before marker after := by
  induction text generalizing after with
  | nil =>
    refine ⟨fun h => (nomatch h), ?_⟩
    rintro ⟨before, marker, h⟩
    exact absurd h.markedAt not_markedAt_nil
  | cons c text ih =>
    rw [afterLastMarker?]
    split_ifs with hc
    · refine ⟨fun h => (nomatch h), ?_⟩
      rintro ⟨before, marker, h⟩
      exact absurd hc (markedAt_cons_iff.1 h.markedAt).1
    rw [Option.or_eq_some_iff, ih, afterLastMarker?_eq_none_iff, afterMarker?_eq_some_iff]
    constructor
    · rintro (⟨before, marker, h⟩ | ⟨hnone, marker, hmarker, heq⟩)
      · exact ⟨c :: before, marker, h.cons hc⟩
      · refine ⟨[], marker, markedAt_cons_iff.2 ⟨hc, .inl ⟨rfl, hmarker, heq⟩⟩, fun hother => ?_⟩
        obtain ⟨-, ⟨rfl, -⟩ | ⟨before', rfl, hrest⟩⟩ := markedAt_cons_iff.1 hother
        · exact Nat.le_refl _
        · exact absurd hrest (hnone _ _ _)
    · rintro ⟨before, marker, h⟩
      obtain ⟨-, ⟨rfl, hmarker, heq⟩ | ⟨before', rfl, hrest⟩⟩ := markedAt_cons_iff.1 h.markedAt
      · refine .inr ⟨fun before' marker' after' hother => ?_, marker, hmarker, heq⟩
        have hlater := h.last (markedAt_cons_iff.2 ⟨hc, .inr ⟨before', rfl, hother⟩⟩)
        cases hlater
      · refine .inl ⟨before', marker, hrest, fun hother => ?_⟩
        exact Nat.le_of_succ_le_succ
          (h.last (markedAt_cons_iff.2 ⟨hc, .inr ⟨_, rfl, hother⟩⟩))

end Scan

/-! ## Ids -/

/-- The part of a text before its first separator, or all of a text without one. -/
def IsUpToSeparator (text part : List Char) : Prop :=
  ∃ rest, text = part ++ rest ∧ (∀ c ∈ part, isSeparator c = false) ∧
    ∀ c ∈ rest.head?, isSeparator c = true

/-- There is one such part of every text. -/
theorem isUpToSeparator_iff {text part : List Char} :
    IsUpToSeparator text part ↔ text.takeWhile (fun c => !isSeparator c) = part := by
  constructor
  · rintro ⟨rest, rfl, hpart, hrest⟩
    have hstop : rest.takeWhile (fun c => !isSeparator c) = [] := by
      cases rest with
      | nil => rfl
      | cons c rest => simp [hrest c rfl]
    rw [List.takeWhile_append_of_pos (by simpa using hpart), hstop, List.append_nil]
  · rintro rfl
    refine ⟨text.dropWhile fun c => !isSeparator c, List.takeWhile_append_dropWhile.symm,
      fun c hc => by simpa using List.mem_takeWhile_imp hc, fun c hc => ?_⟩
    have hstop := List.head?_dropWhile_not (fun c => !isSeparator c) text
    rw [Option.mem_def.1 hc] at hstop
    simpa using hstop

/-- The id in an address is what stands between the last marker on its first line and the next
separator, if that has the length of an id. -/
theorem id?_eq_some_iff {url id : String} :
    id? url = some id ↔ ∃ before marker after, IsLastMark url.toList before marker after ∧
      IsUpToSeparator after id.toList ∧ id.length = idLength := by
  have hof (cs : List Char) : cs = id.toList ↔ String.ofList cs = id := by
    rw [← String.toList_inj, String.toList_ofList]
  simp only [isUpToSeparator_iff]
  constructor
  · intro h
    unfold id? at h
    split at h
    · cases h
    case h_2 after hafter =>
      dsimp only at h
      split_ifs at h with hlength
      obtain ⟨before, marker, hmark⟩ := afterLastMarker?_eq_some_iff.1 hafter
      cases h
      exact ⟨before, marker, after, hmark, by simp, by simpa using hlength⟩
  · rintro ⟨before, marker, after, hmark, hpart, hlength⟩
    have hafter := afterLastMarker?_eq_some_iff.2 ⟨before, marker, hmark⟩
    have hparts : (after.takeWhile fun c => !isSeparator c).length = idLength := by
      rw [hpart, String.length_toList, hlength]
    simp only [id?, hafter]
    rw [if_pos hparts, (hof _).1 hpart]

/-! ## The parameters of an address -/

/-- A parameter that a query can hold as it is. -/
structure IsPlain (parameter : String × String) : Prop where
  nameSealed : ∀ c ∈ parameter.1.toList, isSeparator c = false
  noSign : '=' ∉ parameter.1.toList
  valueSealed : ∀ c ∈ parameter.2.toList, isSeparator c = false

/-- What a parameter is written as. -/
def writeParameter (parameter : String × String) : String :=
  parameter.1 ++ "=" ++ parameter.2

/-- Whether a query can hold a name as it is, character by character. -/
theorem isPlain_of_name {name value : String}
    (hname : (name.toList.all fun c => !isSeparator c && c != '=') = true)
    (hvalue : ∀ c ∈ value.toList, isSeparator c = false) : IsPlain (name, value) := by
  simp only [List.all_eq_true, Bool.and_eq_true, Bool.not_eq_true', bne_iff_ne] at hname
  exact ⟨fun c hc => (hname c hc).1, fun hc => (hname '=' hc).2 rfl, hvalue⟩

/-- What a plain parameter is written as holds no separator. -/
theorem IsPlain.sealed {parameter : String × String} (h : IsPlain parameter) :
    ∀ c ∈ (writeParameter parameter).toList, isSeparator c = false := by
  intro c hc
  simp only [writeParameter, String.toList_append, List.mem_append] at hc
  rcases hc with (hc | hc) | hc
  · exact h.nameSealed c hc
  · rw [List.mem_singleton.1 hc]
    rfl
  · exact h.valueSealed c hc

/-- A field of a query as a parameter: its name ends at the first sign of equality. -/
def readParameter (field : List Char) : String × String :=
  (String.ofList (field.takeWhile (· != '=')),
    String.ofList ((field.dropWhile (· != '=')).drop 1))

/-- A plain parameter is read as it is written. -/
theorem readParameter_writeParameter {parameter : String × String} (h : IsPlain parameter) :
    readParameter (writeParameter parameter).toList = parameter := by
  have hname : ∀ c ∈ parameter.1.toList, (c != '=') = true := fun c hc =>
    bne_iff_ne.2 fun heq => h.noSign (heq ▸ hc)
  have hfield : (writeParameter parameter).toList =
      parameter.1.toList ++ '=' :: parameter.2.toList := by
    simp [writeParameter]
  rw [hfield, readParameter, List.takeWhile_append_of_pos hname,
    List.dropWhile_append_of_pos hname]
  simp

/-- The parameters of an address: those in its query, which is what stands between its first
question mark and its fragment. -/
def queryParameters (address : String) : List (String × String) :=
  let whole := address.toList.takeWhile (· != '#')
  let query := (whole.dropWhile (· != '?')).drop 1
  (query.splitOn '&').map readParameter

/-- Parameters as the query of an address. -/
def writeQuery (parameters : List (String × String)) : String :=
  "&".intercalate (parameters.map writeParameter)

/-- A query holds its fields and the ampersands between them. -/
theorem of_mem_intercalate {fields : List (List Char)} {c : Char}
    (h : c ∈ ['&'].intercalate fields) : c = '&' ∨ ∃ field ∈ fields, c ∈ field := by
  induction fields with
  | nil => cases h
  | cons field rest ih =>
    cases rest with
    | nil => exact .inr ⟨field, List.mem_cons_self, by simpa using h⟩
    | cons next rest =>
      rw [List.intercalate_cons_cons, List.mem_append, List.mem_append, List.mem_singleton] at h
      rcases h with (h | h) | h
      · exact .inr ⟨field, List.mem_cons_self, h⟩
      · exact .inl h
      · exact (ih h).imp_right fun ⟨later, hlater, hc⟩ =>
          ⟨later, List.mem_cons_of_mem field hlater, hc⟩

/-- **Plain parameters are read as they are written**, behind a path without separators. -/
theorem queryParameters_writeQuery {path : String} {parameters : List (String × String)}
    (hpath : ∀ c ∈ path.toList, isSeparator c = false) (hsome : parameters ≠ [])
    (hplain : ∀ parameter ∈ parameters, IsPlain parameter) :
    queryParameters (path ++ "?" ++ writeQuery parameters) = parameters := by
  let fields := parameters.map fun parameter => (writeParameter parameter).toList
  have hfields : ∀ field ∈ fields, ∀ c ∈ field, isSeparator c = false := by
    intro field hfield
    obtain ⟨parameter, hmem, rfl⟩ := List.mem_map.1 hfield
    exact (hplain parameter hmem).sealed
  have hread : fields.map readParameter = parameters := by
    rw [List.map_map]
    exact (List.map_congr_left fun parameter hmem =>
      readParameter_writeParameter (hplain parameter hmem)).trans (List.map_id _)
  have haddress : (path ++ "?" ++ writeQuery parameters).toList =
      path.toList ++ '?' :: ['&'].intercalate fields := by
    simp [writeQuery, String.toList_intercalate, Function.comp_def, fields]
  have hwhole : ∀ c ∈ path.toList ++ '?' :: ['&'].intercalate fields, (c != '#') = true := by
    have hsealed {c : Char} (hc : isSeparator c = false) : (c != '#') = true :=
      bne_iff_ne.2 fun heq => by rw [heq] at hc; cases hc
    intro c hc
    rcases List.mem_append.1 hc with hc | hc
    · exact hsealed (hpath c hc)
    rcases List.mem_cons.1 hc with rfl | hc
    · rfl
    rcases of_mem_intercalate hc with rfl | ⟨field, hfield, hc⟩
    · rfl
    · exact hsealed (hfields field hfield c hc)
  have hquery : ∀ c ∈ path.toList, (c != '?') = true := fun c hc =>
    bne_iff_ne.2 fun heq => by
      have hc := hpath c hc
      rw [heq] at hc
      cases hc
  have hapart : ∀ field ∈ fields, '&' ∉ field := fun field hfield hc => by
    cases hfields field hfield _ hc
  simp only [queryParameters, haddress]
  rw [List.takeWhile_eq_self_iff.2 hwhole, List.dropWhile_append_of_pos hquery]
  simp only [List.dropWhile_cons, bne_self_eq_false, Bool.false_eq_true, if_false,
    List.drop_succ_cons, List.drop_zero]
  rw [List.splitOn_intercalate '&' hapart (by simpa [fields] using hsome), hread]

/-- The address of a player, cut into path and query. -/
theorem playerAddress_eq (id : String) (playback : Playback) :
    playerAddress id playback = "https://www.youtube.com/embed/" ++ id ++ "?" ++ writeQuery
      [("autoplay", flag playback.autoplay), ("controls", flag playback.controls),
        ("loop", flag playback.loop), ("playlist", if playback.loop then id else ""),
        ("mute", flag playback.muted)] := by
  have hsplit {whole mark name : String} (h : whole = mark ++ (name ++ "=")) (s : String) :
      whole ++ s = mark ++ (name ++ ("=" ++ s)) := by
    rw [h, String.append_assoc, String.append_assoc]
  have hautoplay := hsplit (show "?autoplay=" = "?" ++ ("autoplay" ++ "=") by simp)
  have hcontrols := hsplit (show "&controls=" = "&" ++ ("controls" ++ "=") by simp)
  have hloop := hsplit (show "&loop=" = "&" ++ ("loop" ++ "=") by simp)
  have hplaylist := hsplit (show "&playlist=" = "&" ++ ("playlist" ++ "=") by simp)
  have hmute := hsplit (show "&mute=" = "&" ++ ("mute" ++ "=") by simp)
  unfold playerAddress
  simp only [writeQuery, writeParameter, List.map_cons, List.map_nil,
    String.intercalate_cons_cons, String.intercalate_singleton, String.append_assoc]
  rewrite [hautoplay, hcontrols, hloop, hplaylist, hmute]
  rfl

/-- Whether a text holds no separator, character by character. -/
theorem sealed_of_all {s : String} (h : (s.toList.all fun c => !isSeparator c) = true) :
    ∀ c ∈ s.toList, isSeparator c = false := by
  simpa using h

/-- A choice is a plain value. -/
theorem flag_sealed (b : Bool) : ∀ c ∈ (flag b).toList, isSeparator c = false :=
  sealed_of_all (by cases b <;> decide)

/-- The parameters of a player, behind an id without separators. -/
theorem queryParameters_playerAddress {id : String}
    (hid : ∀ c ∈ id.toList, isSeparator c = false) (playback : Playback) :
    queryParameters (playerAddress id playback) =
      [("autoplay", flag playback.autoplay), ("controls", flag playback.controls),
        ("loop", flag playback.loop), ("playlist", if playback.loop then id else ""),
        ("mute", flag playback.muted)] := by
  rw [playerAddress_eq, queryParameters_writeQuery]
  · have hhost : ∀ c ∈ "https://www.youtube.com/embed/".toList, isSeparator c = false :=
      sealed_of_all (by decide +kernel)
    intro c hc
    rw [String.toList_append, List.mem_append] at hc
    exact hc.elim (hhost c) (hid c)
  · simp
  · have hplaylist : ∀ c ∈ (if playback.loop then id else "").toList, isSeparator c = false := by
      split
      · exact hid
      · exact fun c hc => nomatch hc
    simp only [List.forall_mem_cons, List.not_mem_nil, false_implies, implies_true, and_true]
    exact ⟨isPlain_of_name (by decide) (flag_sealed _), isPlain_of_name (by decide) (flag_sealed _),
      isPlain_of_name (by decide) (flag_sealed _), isPlain_of_name (by decide) hplaylist,
      isPlain_of_name (by decide) (flag_sealed _)⟩

/-- **Which video an address names, and how its player is addressed.** An address has an id exactly
if there is a marker on its first line and what stands between the last of them and the next
separator has the length of an id; that is the id. A video is framed exactly if its address has an
id, and the address of the frame has five parameters, whatever the address of the video is. -/
theorem player_of_last_mark (url : String) (playback : Playback) :
    (∀ id, id? url = some id ↔ ∃ before marker after, IsLastMark url.toList before marker after ∧
      IsUpToSeparator after id.toList ∧ id.length = 11) ∧
    (Body.video url playback).frameAddress?.map queryParameters =
      (id? url).map fun id =>
        [("autoplay", flag playback.autoplay), ("controls", flag playback.controls),
          ("loop", flag playback.loop), ("playlist", if playback.loop then id else ""),
          ("mute", flag playback.muted)] := by
  refine ⟨fun id => id?_eq_some_iff, ?_⟩
  cases hid : id? url with
  | none => simp only [Body.video, hid]; rfl
  | some id =>
    obtain ⟨before, marker, after, -, ⟨rest, -, hsealed, -⟩, -⟩ := id?_eq_some_iff.1 hid
    have haddress : (Body.video url playback).frameAddress? = some (playerAddress id playback) := by
      simp only [Body.video, hid]
      rfl
    rw [haddress, Option.map_some, Option.map_some, queryParameters_playerAddress hsealed]

/-- An id may go on behind the line of its marker, where no marker counts. -/
example : id? "https://youtu.be/u/x/abc\nv/efghi?v=" = some "abc\nv/efghi" := by
  rfl

end Video

end DesignGraph
