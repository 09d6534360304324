import ScuffleVideo.Mp4.Codec

/-!
# Strings that codecs are parsed from

A parser of codecs panics when it slices the profile of an AVC string between the bytes of a
character or behind its end, and when an HEVC string has the six parts that are asked for but not the
seventh.  It returns on every other string.
-/

namespace ScuffleVideo.Mp4

open Wire

/-! ## Results without panics -/

section Total

variable {α β : Type}

/-- A codec or an error with a message. -/
def Total (result : Except CodecFault α) : Prop := result ≠ .error .panic

theorem total_ok (value : α) : Total (.ok value) := nofun

theorem total_invalid (message : String) : Total (.error (.invalid message) : Except CodecFault α) :=
  nofun

theorem total_bind_iff {first : Except CodecFault α} {next : α → Except CodecFault β} :
    Total (first >>= next) ↔ Total first ∧ ∀ value, first = .ok value → Total (next value) := by
  cases first with
  | error fault =>
      constructor
      · intro total
        exact ⟨fun failed => total (by rw [failed]; rfl), nofun⟩
      · rintro ⟨total, _⟩ failed
        exact total (by cases failed; rfl)
  | ok value =>
      constructor
      · intro total
        refine ⟨total_ok value, ?_⟩
        rintro _ ⟨rfl⟩
        exact total
      · rintro ⟨_, total⟩
        exact total value rfl

theorem Total.bind {first : Except CodecFault α} {next : α → Except CodecFault β}
    (head : Total first) (tail : ∀ value, Total (next value)) : Total (first >>= next) :=
  total_bind_iff.mpr ⟨head, fun value _ => tail value⟩

/-- What comes behind a result without panics counts only where there is a value. -/
theorem Total.bind_iff {first : Except CodecFault α} (head : Total first)
    {next : α → Except CodecFault β} :
    Total (first >>= next) ↔ ∀ value, first = .ok value → Total (next value) := by
  rw [total_bind_iff]
  exact and_iff_right head

theorem Total.then_iff {first : Except CodecFault α} (head : Total first)
    {second : Except CodecFault β} :
    Total (do let _ ← first; second) ↔ ((∃ value, first = .ok value) → Total second) := by
  rw [head.bind_iff, forall_exists_index]

theorem total_number (radix bound : Nat) (what : String) (shown text : Text) :
    Total (number radix bound what shown text) := by
  unfold number
  split
  · exact total_ok _
  · exact total_invalid _

theorem number_eq_ok_iff {radix bound value : Nat} {what : String} {shown text : Text} :
    number radix bound what shown text = .ok value ↔ fromStrRadix radix bound text = .ok value := by
  unfold number
  cases fromStrRadix radix bound text with
  | ok number => rw [Except.ok.injEq, Except.ok.injEq]
  | error fault => exact ⟨nofun, nofun⟩

/-- The text is read as a number of an unsigned type. -/
def IsNumber (radix bound : Nat) (text : Text) : Prop :=
  ∃ value, fromStrRadix radix bound text = .ok value

theorem number_isOk_iff {radix bound : Nat} {what : String} {shown text : Text} :
    (∃ value, number radix bound what shown text = .ok value) ↔ IsNumber radix bound text :=
  exists_congr fun _ => number_eq_ok_iff

theorem total_flag (what : String) (yes no text : Text) : Total (flag what yes no text) := by
  unfold flag
  split
  · exact total_ok _
  · split
    · exact total_ok _
    · exact total_invalid _

theorem flag_isOk_iff {what : String} {yes no text : Text} :
    (∃ value, flag what yes no text = .ok value) ↔ text = yes ∨ text = no := by
  unfold flag
  by_cases first : text = yes
  · rw [if_pos first]
    exact ⟨fun _ => .inl first, fun _ => ⟨true, rfl⟩⟩
  · rw [if_neg first]
    by_cases second : text = no
    · rw [if_pos second]
      exact ⟨fun _ => .inr second, fun _ => ⟨false, rfl⟩⟩
    · rw [if_neg second]
      exact ⟨nofun, fun either => absurd either (not_or.mpr ⟨first, second⟩)⟩

theorem total_profileSpace (text : Text) : Total (profileSpace text) := by
  unfold profileSpace
  split
  · exact total_ok _
  · split
    · exact total_ok _
    · split
      · exact total_ok _
      · exact total_invalid _

theorem profileSpace_isOk_iff {text : Text} :
    (∃ value, profileSpace text = .ok value) ↔ text = ['A'] ∨ text = ['B'] ∨ text = ['C'] := by
  unfold profileSpace
  by_cases first : text = ['A']
  · rw [if_pos first]
    exact ⟨fun _ => .inl first, fun _ => ⟨1, rfl⟩⟩
  · rw [if_neg first]
    by_cases second : text = ['B']
    · rw [if_pos second]
      exact ⟨fun _ => .inr (.inl second), fun _ => ⟨2, rfl⟩⟩
    · rw [if_neg second]
      by_cases third : text = ['C']
      · rw [if_pos third]
        exact ⟨fun _ => .inr (.inr third), fun _ => ⟨3, rfl⟩⟩
      · rw [if_neg third]
        exact ⟨nofun, fun any => absurd any (not_or.mpr ⟨first, not_or.mpr ⟨second, third⟩⟩)⟩

theorem part_of_lt {splits : List Text} {index : Nat} (present : index < splits.length) :
    part splits index = .ok splits[index] := by
  rw [part, List.getElem?_eq_getElem present]

theorem total_part {splits : List Text} {index : Nat} (present : index < splits.length) :
    Total (part splits index) := by
  rw [part_of_lt present]
  exact total_ok _

end Total

/-! ## The three forms of a video codec -/

/-- The text can be cut behind its next two bytes, and as long as these are a hexadecimal number
again behind the two after them. -/
def FitsBytes : Nat → Text → Prop
  | 0, _ => True
  | count + 1, text => ∃ byte rest, text = byte ++ rest ∧ utf8Length byte = 2 ∧
      (IsNumber 16 (2 ^ 8) byte → FitsBytes count rest)

/-- The parts behind the first one of an HEVC string are what is asked for. -/
def HevcFields (space profile compatibility tier level : Text) : Prop :=
  (space = ['A'] ∨ space = ['B'] ∨ space = ['C']) ∧ IsNumber 16 (2 ^ 8) profile ∧
    IsNumber 16 (2 ^ 32) compatibility ∧ (tier = ['H'] ∨ tier = ['L']) ∧ IsNumber 16 (2 ^ 8) level

/-- The strings that are parsed without a panic. -/
def PartsFit (splits : List Text) : Prop :=
  (∀ second rest, splits = "avc1".toList :: second :: rest → FitsBytes 3 second) ∧
    ∀ space profile compatibility tier level,
      splits = ["hev1".toList, space, profile, compatibility, tier, level] →
        ¬HevcFields space profile compatibility tier level

/-- One field of an AVC string, behind the bytes in front of it. -/
theorem total_sliced_iff {β : Type} {start : Nat} {front text shown : Text} {what : String}
    {next : Nat → Except CodecFault β} (before : utf8Length front = start) :
    Total (do
      let value ← number 16 (2 ^ 8) what shown (← sliceOf start (start + 2) (front ++ text))
      next value) ↔
    ∃ byte rest, text = byte ++ rest ∧ utf8Length byte = 2 ∧
      ∀ value, fromStrRadix 16 (2 ^ 8) byte = .ok value → Total (next value) := by
  have cut : sliceText start (start + 2) (front ++ text) = (cutAt 2 text).map Prod.fst := by
    rw [sliceText, ← before, cutAt_append, Nat.add_sub_cancel_left]
    change (cutAt 2 text).bind _ = _
    cases cutAt 2 text with
    | none => rfl
    | some parts => rfl
  rw [sliceOf, cut]
  cases known : cutAt 2 text with
  | none =>
      constructor
      · intro total
        exact absurd rfl total
      · rintro ⟨byte, rest, whole, size, _⟩
        rw [cutAt_eq_some_iff.mpr ⟨whole, size⟩] at known
        cases known
  | some parts =>
      obtain ⟨byte, rest⟩ := parts
      obtain ⟨whole, size⟩ := cutAt_eq_some_iff.mp known
      change Total (number 16 (2 ^ 8) what shown byte >>= next) ↔ _
      rw [Total.bind_iff (total_number _ _ _ _ _)]
      constructor
      · intro total
        exact ⟨byte, rest, whole, size, fun value read => total value (number_eq_ok_iff.mpr read)⟩
      · rintro ⟨other, behind, again, sized, total⟩
        rw [cutAt_eq_some_iff.mpr ⟨again, sized⟩] at known
        cases known
        exact fun value read => total value (number_eq_ok_iff.mp read)

/-- A field in front of others that need their own bytes. -/
theorem total_sliced_fits {β : Type} {start count : Nat} {front text shown : Text} {what : String}
    {next : Nat → Except CodecFault β} (before : utf8Length front = start)
    (tail : ∀ byte rest, text = byte ++ rest → utf8Length byte = 2 →
      ∀ value, Total (next value) ↔ FitsBytes count rest) :
    Total (do
      let value ← number 16 (2 ^ 8) what shown (← sliceOf start (start + 2) (front ++ text))
      next value) ↔ FitsBytes (count + 1) text := by
  rw [total_sliced_iff before, FitsBytes]
  refine exists_congr fun byte => exists_congr fun rest => and_congr_right fun whole =>
    and_congr_right fun size => ?_
  rw [IsNumber, forall_exists_index]
  exact forall_congr' fun value => imp_congr_right fun _ => tail byte rest whole size value

theorem total_parseAvc_iff {first second : Text} {rest : List Text} :
    Total (parseAvc (first :: second :: rest)) ↔ FitsBytes 3 second := by
  have many : ¬(first :: second :: rest).length < 2 := by
    rw [List.length_cons, List.length_cons]
    omega
  rw [parseAvc, if_neg many, show part (first :: second :: rest) 1 = .ok second from rfl, ok_bind,
    ← List.nil_append second]
  refine total_sliced_fits rfl ?_
  rintro profile behind rfl profileSize _
  refine total_sliced_fits profileSize ?_
  rintro constraintSet last rfl constraintSize _
  rw [List.nil_append, ← List.append_assoc]
  have before : utf8Length (profile ++ constraintSet) = 4 := by
    rw [utf8Length_append, profileSize, constraintSize]
  refine total_sliced_fits before ?_
  intro _ _ _ _ _
  exact ⟨fun _ => trivial, fun _ => total_ok _⟩

/-- With six parts that are right the parser goes on to the seventh. -/
theorem total_parseHevc_iff {first space profile compatibility tier level : Text} :
    Total (parseHevc [first, space, profile, compatibility, tier, level]) ↔
      ¬HevcFields space profile compatibility tier level := by
  rw [parseHevc, if_neg (show ¬[first, space, profile, compatibility, tier, level].length < 6 from
    Nat.lt_irrefl 6)]
  change Total (do
    let generalProfileSpace ← profileSpace space
    let profileNumber ← number 16 (2 ^ 8) "profile" profile profile
    let compatibilityNumber ← number 16 (2 ^ 32) "profile compatibility" compatibility compatibility
    let tierFlag ← flag "tier" ['H'] ['L'] tier
    let levelNumber ← number 16 (2 ^ 8) "level" level level
    (.error .panic : Except CodecFault VideoCodec)) ↔ _
  rw [Total.then_iff (total_profileSpace _), profileSpace_isOk_iff,
    Total.then_iff (total_number _ _ _ _ _), number_isOk_iff,
    Total.then_iff (total_number _ _ _ _ _), number_isOk_iff,
    Total.then_iff (total_flag _ _ _ _), flag_isOk_iff,
    Total.then_iff (total_number _ _ _ _ _), number_isOk_iff]
  have panics : Total (.error .panic : Except CodecFault VideoCodec) ↔ False :=
    ⟨fun total => total rfl, False.elim⟩
  rw [panics, HevcFields]
  constructor
  · rintro none ⟨spaceRight, profileRight, compatibilityRight, tierRight, levelRight⟩
    exact none spaceRight profileRight compatibilityRight tierRight levelRight
  · intro none spaceRight profileRight compatibilityRight tierRight levelRight
    exact none ⟨spaceRight, profileRight, compatibilityRight, tierRight, levelRight⟩

theorem total_parseHevc_of_length {splits : List Text} (other : splits.length ≠ 6) :
    Total (parseHevc splits) := by
  unfold parseHevc
  by_cases few : splits.length < 6
  · rw [if_pos few]
    exact total_invalid _
  · rw [if_neg few]
    exact (total_part (by omega)).bind fun _ => (total_profileSpace _).bind fun _ =>
      (total_part (by omega)).bind fun _ => (total_number _ _ _ _ _).bind fun _ =>
      (total_part (by omega)).bind fun _ => (total_number _ _ _ _ _).bind fun _ =>
      (total_part (by omega)).bind fun _ => (total_flag _ _ _ _).bind fun _ =>
      (total_part (by omega)).bind fun _ => (total_number _ _ _ _ _).bind fun _ =>
      (total_part (by omega)).bind fun _ => (total_number _ _ _ _ _).bind fun _ => total_ok _

theorem total_parseAv1 (splits : List Text) : Total (parseAv1 splits) := by
  unfold parseAv1
  by_cases few : splits.length < 12
  · rw [if_pos few]
    exact total_invalid _
  · rw [if_neg few]
    exact (total_part (by omega)).bind fun _ => (total_number _ _ _ _ _).bind fun _ =>
      (total_part (by omega)).bind fun _ => (total_number _ _ _ _ _).bind fun _ =>
      (total_part (by omega)).bind fun _ => (total_flag _ _ _ _).bind fun _ =>
      (total_part (by omega)).bind fun _ => (total_number _ _ _ _ _).bind fun _ =>
      (total_part (by omega)).bind fun _ => (total_flag _ _ _ _).bind fun _ =>
      (total_part (by omega)).bind fun _ => (total_flag _ _ _ _).bind fun _ =>
      (total_part (by omega)).bind fun _ => (total_flag _ _ _ _).bind fun _ =>
      (total_part (by omega)).bind fun _ => (total_number _ _ _ _ _).bind fun _ =>
      (total_part (by omega)).bind fun _ => (total_number _ _ _ _ _).bind fun _ =>
      (total_part (by omega)).bind fun _ => (total_number _ _ _ _ _).bind fun _ =>
      (total_part (by omega)).bind fun _ => (total_number _ _ _ _ _).bind fun _ => total_ok _

/-! ## Every string -/

theorem partsFit_avc {rest : List Text} :
    PartsFit ("avc1".toList :: rest) ↔ ∀ second others, rest = second :: others → FitsBytes 3 second := by
  constructor
  · rintro fits second others rfl
    exact fits.1 second others rfl
  · intro fits
    refine ⟨fun second others same => fits second others (List.cons.inj same).2, ?_⟩
    intro space profile compatibility tier level same
    exact absurd (List.cons.inj same).1 (by decide)

theorem partsFit_hevc {rest : List Text} :
    PartsFit ("hev1".toList :: rest) ↔ ∀ space profile compatibility tier level,
      rest = [space, profile, compatibility, tier, level] →
        ¬HevcFields space profile compatibility tier level := by
  constructor
  · rintro fits space profile compatibility tier level rfl
    exact fits.2 space profile compatibility tier level rfl
  · intro fits
    refine ⟨?_, fun space profile compatibility tier level same =>
      fits space profile compatibility tier level (List.cons.inj same).2⟩
    intro second others same
    exact absurd (List.cons.inj same).1 (by decide)

theorem partsFit_other {first : Text} {rest : List Text} (notAvc : first ≠ "avc1".toList)
    (notHevc : first ≠ "hev1".toList) : PartsFit (first :: rest) :=
  ⟨fun _ _ same => absurd (List.cons.inj same).1 notAvc,
    fun _ _ _ _ _ same => absurd (List.cons.inj same).1 notHevc⟩

theorem total_parseVideo_iff {splits : List Text} (nonempty : splits ≠ []) :
    Total (parseVideo splits) ↔ PartsFit splits := by
  obtain ⟨first, rest, rfl⟩ := List.exists_cons_of_ne_nil nonempty
  change Total (if first = "avc1".toList then parseAvc (first :: rest)
    else if first = "hev1".toList then parseHevc (first :: rest)
    else if first = "av01".toList then parseAv1 (first :: rest)
    else .error (.invalid ("invalid codec, unknown type: " ++ String.ofList first))) ↔ _
  by_cases isAvc : first = "avc1".toList
  · rw [if_pos isAvc, isAvc, partsFit_avc]
    cases rest with
    | nil => exact ⟨fun _ => nofun, fun _ => total_invalid _⟩
    | cons second others =>
        rw [total_parseAvc_iff]
        constructor
        · rintro fits _ _ ⟨rfl⟩
          exact fits
        · exact fun fits => fits second others rfl
  · rw [if_neg isAvc]
    by_cases isHevc : first = "hev1".toList
    · rw [if_pos isHevc, isHevc, partsFit_hevc]
      by_cases six : rest.length = 5
      · match rest, six with
        | [space, profile, compatibility, tier, level], _ =>
            rw [total_parseHevc_iff]
            constructor
            · rintro fits _ _ _ _ _ ⟨rfl⟩
              exact fits
            · exact fun fits => fits space profile compatibility tier level rfl
      · constructor
        · rintro _ space profile compatibility tier level rfl
          exact absurd rfl six
        · intro _
          apply total_parseHevc_of_length
          rw [List.length_cons]
          omega
    · rw [if_neg isHevc]
      refine ⟨fun _ => partsFit_other isAvc isHevc, fun _ => ?_⟩
      split
      · exact total_parseAv1 _
      · exact total_invalid _

/-- The parser of audio codecs panics on no string. -/
theorem total_parseAudio (splits : List Text) : Total (parseAudio splits) := by
  unfold parseAudio
  split
  · exact total_invalid _
  · rename_i some
    have present : 0 < splits.length := List.length_pos_iff.mpr fun none => some (by rw [none]; rfl)
    refine (total_part present).bind fun first => ?_
    split
    · unfold parseMp4a
      split
      · exact total_invalid _
      · rename_i many
        exact (total_part (by omega)).bind fun _ => (total_number _ _ _ _ _).bind fun _ => total_ok _
    · split
      · exact total_ok _
      · exact total_invalid _

/-- A string is parsed as a video codec and as an audio codec without a panic exactly if its parts
fit. -/
theorem codecs_total_iff (text : String) :
    Total (VideoCodec.fromStr text) ∧ Total (AudioCodec.fromStr text) ↔
      PartsFit (text.toList.splitOn '.') := by
  have audio : Total (AudioCodec.fromStr text) := total_parseAudio _
  rw [and_iff_left audio]
  exact total_parseVideo_iff (List.splitOn_ne_nil _ _)

theorem short_strings_panic : VideoCodec.fromStr "avc1.4" = .error .panic ∧
    VideoCodec.fromStr "hev1.A.1.1.H.1" = .error .panic := by
  constructor <;> decide +kernel

end ScuffleVideo.Mp4
