import ScuffleVideo.H265.Sps
import ScuffleVideo.Wire.ExpGolombWriting

/-!
# Reference pictures of HEVC parameter sets

The sets of reference pictures, each with its pictures or predicted from the set before, and the
long-term pictures.  The numbers of pictures follow section 7.4.8 of the specification.  The parser
reads one flag too few for every predicted set, and takes the order counts of long-term pictures for
exponential Golomb codes.
-/

namespace ScuffleVideo.H265

open Wire BitReader BitCursor

/-! ## The rounds of the loop -/

/-- The numbers of pictures that the loop over the sets keeps. -/
def readRefPicSets (checks : OverflowChecks) : Nat → Option Nat → BitReader (List Nat)
  | 0, _ => pure []
  | count + 1, previous => do
      let numDeltaPocs ← readRefPicSet checks previous
      let others ← readRefPicSets checks count (some numDeltaPocs)
      return numDeltaPocs :: others

/-- Standing in front of as many sets, the parser passes some of them. -/
def passSets (checks : OverflowChecks) (count rounds : Nat) : BitReader (List Nat) := do
  let _ ← between (allocate count)
  readRefPicSets checks rounds none

/-- Behind all sets, it passes some of the long-term pictures, if there are any. -/
def passPictures (checks : OverflowChecks) (count rounds : Nat) : BitReader Unit := do
  let _ ← between (allocate count)
  skipRefPicSets checks count none
  let longTermRefPicsPresentFlag ← readBit
  let _ ← optionally longTermRefPicsPresentFlag do
    let _ ← readExpGolomb checks
    repeatedly (skipPicture checks) rounds
  return ()

/-- The parser from the sets to the fields behind the long-term pictures. -/
def skipReferences (checks : OverflowChecks) (count : Nat) : BitReader Unit := do
  let _ ← between (allocate count)
  skipRefPicSets checks count none
  let longTermRefPicsPresentFlag ← readBit
  let _ ← optionally longTermRefPicsPresentFlag (skipLongTermRefPics checks)
  return ()

/-- The fields behind the long-term pictures. -/
def readUsability (checks : OverflowChecks) : BitReader (Option ColorConfig × Float) := do
  skipBits 1
  skipBits 1
  let vuiParametersPresentFlag ← readBit
  let vui ← optionally vuiParametersPresentFlag (readVui checks)
  return vui.getD (none, 0.0)

/-- The parser is made of these pieces. -/
theorem Sps.read_eq (checks : OverflowChecks) : Sps.read checks = (do
    let ((width, height), count) ← Sps.readFront checks
    skipReferences checks count
    let (colorConfig, frameRate) ← readUsability checks
    return ⟨UInt64.ofNat width, UInt64.ofNat height, frameRate, colorConfig⟩) := by
  unfold Sps.read
  congr 1
  funext ⟨⟨width, height⟩, count⟩
  dsimp only
  unfold skipReferences Sps.readBack readUsability
  simp only [sequence_assoc]
  rfl

/-- The loop over the sets, with the numbers it keeps. -/
theorem skipRefPicSets_eq (checks : OverflowChecks) (count : Nat) (previous : Option Nat) :
    skipRefPicSets checks count previous = (do
      let _ ← readRefPicSets checks count previous
      return ()) := by
  induction count generalizing previous with
  | zero => rfl
  | succ count ih =>
      rw [skipRefPicSets, readRefPicSets, sequence_assoc]
      congr 1
      funext numDeltaPocs
      rw [ih, sequence_assoc]
      rfl

/-- The sets are passed in as many rounds as there are. -/
theorem skipReferences_eq (checks : OverflowChecks) (count : Nat) :
    skipReferences checks count = (do
      let _ ← passSets checks count count
      let longTermRefPicsPresentFlag ← readBit
      let _ ← optionally longTermRefPicsPresentFlag (skipLongTermRefPics checks)
      return ()) := by
  unfold skipReferences passSets
  simp only [skipRefPicSets_eq, sequence_assoc]
  rfl

/-- So are the long-term pictures: the rounds are the number in front of them. -/
theorem passPictures_of_skipReferences {checks : OverflowChecks} {count position stop : Nat}
    {buffer : Bytes} {state last : BitState}
    (done : skipReferences checks count state buffer position = .ok (((), last), stop)) :
    ∃ rounds, passPictures checks count rounds state buffer position = .ok (((), last), stop) := by
  obtain ⟨_, first, place, allotted, done⟩ := sequence_ok_iff.mp done
  obtain ⟨_, second, next, skipped, done⟩ := sequence_ok_iff.mp done
  obtain ⟨flag, third, after, flagged, done⟩ := sequence_ok_iff.mp done
  have opened (rounds : Nat) : passPictures checks count rounds state buffer position = (do
      let _ ← optionally flag do
        let _ ← readExpGolomb checks
        repeatedly (skipPicture checks) rounds
      return () : BitReader Unit) third buffer after := by
    unfold passPictures
    rw [sequence_ok allotted, sequence_ok skipped, sequence_ok flagged]
  cases flag with
  | false => exact ⟨0, (opened 0).trans done⟩
  | true =>
      obtain ⟨_, _, _, shown, same⟩ := sequence_ok_iff.mp done
      cases same
      obtain ⟨_, _, _, loop, same⟩ := sequence_ok_iff.mp shown
      cases same
      obtain ⟨number, _, _, numbered, looped⟩ := sequence_ok_iff.mp loop
      obtain ⟨values, _, _, passed, same⟩ := sequence_ok_iff.mp looped
      cases same
      refine ⟨number.toNat, (opened _).trans ?_⟩
      have rounds : (do
          let _ ← readExpGolomb checks
          repeatedly (skipPicture checks) number.toNat : BitReader (List Unit)) third buffer after =
          .ok ((values, last), stop) := (sequence_ok numbered).trans passed
      exact (sequence_ok ((sequence_ok rounds).trans rfl)).trans rfl

/-! ## The sets -/

/-- A picture of an explicit set: the distance to the one before, less 1, and a flag. -/
structure CodedPicture where
  deltaPocMinus1 : Nat
  usedByCurrPic : Bool
  deriving DecidableEq, Repr

/-- Both flags of a picture of the set before. -/
structure PredictionFlags where
  usedByCurrPic : Bool
  useDelta : Bool
  deriving DecidableEq, Repr

inductive RefPicSet where
  | explicit (negative positive : List CodedPicture)
  | predicted (deltaRpsSign : Bool) (absDeltaRpsMinus1 : Nat) (flags : List PredictionFlags)
  deriving DecidableEq, Repr

/-- The distances of the pictures of a set in front of and behind the current one. -/
structure DeltaPocs where
  s0 : List Int
  s1 : List Int
  deriving DecidableEq, Repr

namespace DeltaPocs

def numDeltaPocs (pocs : DeltaPocs) : Nat := pocs.s0.length + pocs.s1.length

end DeltaPocs

def CodedPicture.bits (picture : CodedPicture) : List Bool :=
  ueBits picture.deltaPocMinus1 ++ [picture.usedByCurrPic]

namespace PredictionFlags

/-- The second flag is there if the first is not set. -/
def bits (flags : PredictionFlags) : List Bool :=
  [flags.usedByCurrPic] ++ if flags.usedByCurrPic then [] else [flags.useDelta]

/-- The second flag, which is set if it is not there. -/
def delta (flags : PredictionFlags) : Bool := flags.usedByCurrPic || flags.useDelta

end PredictionFlags

namespace RefPicSet

def isPredicted : RefPicSet → Bool
  | .explicit _ _ => false
  | .predicted _ _ _ => true

def body : RefPicSet → List Bool
  | .explicit negative positive =>
      ueBits negative.length ++ (ueBits positive.length ++
        (negative.flatMap CodedPicture.bits ++ positive.flatMap CodedPicture.bits))
  | .predicted deltaRpsSign absDeltaRpsMinus1 flags =>
      [deltaRpsSign] ++ (ueBits absDeltaRpsMinus1 ++ flags.flatMap PredictionFlags.bits)

/-- Only the first set has no flag that says if it is predicted. -/
def bits (first : Bool) (set : RefPicSet) : List Bool :=
  (if first then [] else [set.isPredicted]) ++ set.body

/-- Every distance is counted from the one before. -/
def accumulate (sign : Int) : Int → List CodedPicture → List Int
  | _, [] => []
  | poc, picture :: pictures =>
      (poc + sign * (picture.deltaPocMinus1 + 1)) ::
        accumulate sign (poc + sign * (picture.deltaPocMinus1 + 1)) pictures

/-- The distances, moved, of the pictures whose flag is set. -/
def moved (deltaRps : Int) (pocs : List Int) (flags : List PredictionFlags) : List Int :=
  (List.zip pocs flags).filterMap fun pair => if pair.2.delta then some (pair.1 + deltaRps) else none

/-- The distances of a set that is predicted from another.  The flags stand for the pictures in
front, those behind, and the current picture of the other set. -/
def predict (before : DeltaPocs) (deltaRps : Int) (flags : List PredictionFlags) : DeltaPocs :=
  let front := moved deltaRps before.s0 flags
  let back := moved deltaRps before.s1 (flags.drop before.s0.length)
  let own := moved deltaRps [0] (flags.drop before.numDeltaPocs)
  { s0 := back.reverse.filter (· < 0) ++ own.filter (· < 0) ++ front.filter (· < 0)
    s1 := front.reverse.filter (0 < ·) ++ own.filter (0 < ·) ++ back.filter (0 < ·) }

def derive (before : DeltaPocs) : RefPicSet → DeltaPocs
  | .explicit negative positive => ⟨accumulate (-1) 0 negative, accumulate 1 0 positive⟩
  | .predicted deltaRpsSign absDeltaRpsMinus1 flags =>
      predict before ((1 - 2 * deltaRpsSign.toNat) * (absDeltaRpsMinus1 + 1)) flags

/-- The distances of one set after the other. -/
def deriveAll (before : DeltaPocs) : List RefPicSet → List DeltaPocs
  | [] => []
  | set :: sets => set.derive before :: deriveAll (set.derive before) sets

def bitsAll : Bool → List RefPicSet → List Bool
  | _, [] => []
  | first, set :: sets => set.bits first ++ bitsAll false sets

/-- Every number has less than 32 bits.  A predicted set is not the first, and has flags for every
picture of the one before and for the current one. -/
def Fits (first : Bool) (before : DeltaPocs) : RefPicSet → Prop
  | .explicit negative positive => negative.length < 2 ^ 32 ∧ positive.length < 2 ^ 32 ∧
      (∀ picture ∈ negative, picture.deltaPocMinus1 < 2 ^ 32) ∧
      ∀ picture ∈ positive, picture.deltaPocMinus1 < 2 ^ 32
  | .predicted _ absDeltaRpsMinus1 flags => first = false ∧ absDeltaRpsMinus1 < 2 ^ 32 ∧
      flags.length = before.numDeltaPocs + 1

def FitAll : Bool → DeltaPocs → List RefPicSet → Prop
  | _, _, [] => True
  | first, before, set :: sets => set.Fits first before ∧ FitAll false (set.derive before) sets

theorem length_accumulate (sign poc : Int) (pictures : List CodedPicture) :
    (accumulate sign poc pictures).length = pictures.length := by
  induction pictures generalizing poc with
  | nil => rfl
  | cons picture pictures ih => rw [accumulate, List.length_cons, ih, List.length_cons]

/-! ## Explicit and predicted sets -/

theorem decodes_skipPicture (checks : OverflowChecks) {picture : CodedPicture}
    (small : picture.deltaPocMinus1 < 2 ^ 32) : Decodes (skipPicture checks) picture.bits () :=
  (decodes_ue checks small).bind (Decodes.skipBits (List.length_singleton))

theorem decodes_pictures (checks : OverflowChecks) {pictures : List CodedPicture}
    (small : ∀ picture ∈ pictures, picture.deltaPocMinus1 < 2 ^ 32) :
    Decodes (repeatedly (skipPicture checks) pictures.length) (pictures.flatMap CodedPicture.bits)
      (pictures.map fun _ => ()) :=
  Decodes.repeatedlyMap fun picture there => decodes_skipPicture checks (small picture there)

/-- An explicit set is read to its end, and its pictures are counted. -/
theorem decodes_explicit (checks : OverflowChecks) {negative positive : List CodedPicture}
    {first : Bool} {before : DeltaPocs} (fits : (explicit negative positive).Fits first before) :
    Decodes (readExplicitSet checks) (explicit negative positive).body
      ((explicit negative positive).derive before).numDeltaPocs := by
  obtain ⟨fewNegative, fewPositive, smallNegative, smallPositive⟩ := fits
  refine (decodes_ue checks fewNegative).bind ?_
  refine (decodes_ue checks fewPositive).bind ?_
  rw [toNat_small fewNegative, toNat_small fewPositive,
    between_bind (asU64_inside checks (Int.natCast_add _ _).symm (by omega))]
  refine (decodes_pictures checks smallNegative).bind ?_
  refine (decodes_pictures checks smallPositive).finish ?_
  rw [derive, DeltaPocs.numDeltaPocs, length_accumulate, length_accumulate]
  exact Decodes.pure _

theorem decodes_kept (flags : PredictionFlags) : Decodes readKept flags.bits flags.delta := by
  obtain ⟨used, delta⟩ := flags
  refine (Decodes.readBit used).bind ?_
  cases used with
  | true => exact Decodes.pure true
  | false => exact Decodes.readBit delta

/-- The loop reads the flags of as many pictures as it is told. -/
theorem decodes_countKept (checks : OverflowChecks) {flags : List PredictionFlags} {total : Nat}
    (small : total + flags.length < 2 ^ 64) :
    ∃ kept, Decodes (countKept checks flags.length total) (flags.flatMap PredictionFlags.bits) kept := by
  induction flags generalizing total with
  | nil => exact ⟨total, Decodes.pure total⟩
  | cons flag flags ih =>
      rw [List.length_cons] at small
      have read := decodes_kept flag
      cases shown : flag.delta with
      | true =>
          obtain ⟨kept, rest⟩ := @ih (total + 1) (by omega)
          rw [shown] at read
          refine ⟨kept, read.bind ?_⟩
          rw [if_pos rfl, between_bind (asU64_inside checks (Int.natCast_succ total).symm (by omega))]
          exact rest
      | false =>
          obtain ⟨kept, rest⟩ := @ih total (by omega)
          rw [shown] at read
          exact ⟨kept, read.bind rest⟩

/-- A predicted set is left in front of the flags of its last picture. -/
theorem decodes_predicted (checks : OverflowChecks) {sign : Bool} {distance : Nat}
    {flags : List PredictionFlags} (small : distance < 2 ^ 32) (few : flags.length < 2 ^ 64) :
    ∃ kept, Decodes (readPredictedSet checks flags.length)
      ([sign] ++ (ueBits distance ++ flags.flatMap PredictionFlags.bits)) kept := by
  obtain ⟨kept, counted⟩ := @decodes_countKept checks flags 0 (by omega)
  exact ⟨kept, (Decodes.skipBits List.length_singleton).bind ((decodes_ue checks small).bind counted)⟩

/-! ## The loop over the sets -/

/-- What the loop knows of the set before. -/
def known (first : Bool) (before : DeltaPocs) : Option Nat :=
  if first then none else some before.numDeltaPocs

/-- After every round of the loop the parser stands at the end of a set and has kept the numbers of
pictures of the sets up to there. -/
def SetsAligned (checks : OverflowChecks) (first : Bool) (before : DeltaPocs) (sets : List RefPicSet)
    (buffer : Bytes) (position : Nat) (state : BitState) (bit : Nat) : Prop :=
  ∀ rounds ≤ sets.length, ∃ last stop,
    readRefPicSets checks rounds (known first before) state buffer position =
      .ok ((((deriveAll before sets).take rounds).map DeltaPocs.numDeltaPocs, last), stop) ∧
    Standing buffer stop last (bit + (bitsAll first (sets.take rounds)).length)

theorem decodes_set {checks : OverflowChecks} {first : Bool} {before : DeltaPocs} {set : RefPicSet}
    (fits : set.Fits first before) (explicitly : set.isPredicted = false) :
    Decodes (readRefPicSet checks (known first before)) (set.bits first)
      (set.derive before).numDeltaPocs := by
  cases set with
  | predicted sign distance flags => cases explicitly
  | explicit negative positive =>
      have body := decodes_explicit checks fits
      cases first with
      | true => exact (Decodes.pure none).bind body
      | false => exact ((Decodes.readBit false).map some).bind body

/-- A predicted set is not read to its end. -/
theorem predicted_cut {checks : OverflowChecks} {before : DeltaPocs} {sign : Bool} {distance : Nat}
    {flags : List PredictionFlags} (fits : (predicted sign distance flags).Fits false before)
    (few : before.numDeltaPocs < 2 ^ 64) :
    ∃ kept bits last, Decodes (readRefPicSet checks (known false before)) bits kept ∧
      (predicted sign distance flags).bits false = bits ++ PredictionFlags.bits last := by
  obtain ⟨_, small, size⟩ := fits
  obtain ⟨last, shape⟩ : ∃ last, flags = flags.take before.numDeltaPocs ++ [last] := by
    have present : before.numDeltaPocs < flags.length := by omega
    refine ⟨flags[before.numDeltaPocs], ?_⟩
    rw [List.take_append_getElem, List.take_of_length_le (by omega)]
  have length : (flags.take before.numDeltaPocs).length = before.numDeltaPocs :=
    List.length_take_of_le (by omega)
  obtain ⟨kept, read⟩ := @decodes_predicted checks sign distance (flags.take before.numDeltaPocs) small
    (by rw [length]; exact few)
  rw [length] at read
  have split := congrArg (List.flatMap PredictionFlags.bits) shape
  rw [List.flatMap_append, List.flatMap_singleton] at split
  refine ⟨kept, _, last, ((Decodes.readBit true).map some).bind read, ?_⟩
  rw [bits, body, split, if_neg Bool.false_ne_true]
  simp only [isPredicted, List.append_assoc]

section

variable {checks : OverflowChecks} {buffer : Bytes} {position reached : Nat} {state middle : BitState}
  {previous : Option Nat} {count : Nat}

/-- One round and the rounds behind it. -/
theorem readRefPicSets_succ
    (read : readRefPicSet checks previous state buffer position = .ok ((count, middle), reached))
    (rounds : Nat) (counts : List Nat) (last : BitState) (stop : Nat) :
    readRefPicSets checks (rounds + 1) previous state buffer position =
        .ok ((count :: counts, last), stop) ↔
      readRefPicSets checks rounds (some count) middle buffer reached = .ok ((counts, last), stop) := by
  rw [readRefPicSets, sequence_ok read, sequence_ok_iff]
  constructor
  · rintro ⟨others, _, _, done, same⟩
    cases same
    exact done
  · exact fun done => ⟨counts, last, stop, done, rfl⟩

end

section

variable {checks : OverflowChecks} {first : Bool} {before : DeltaPocs} {sets : List RefPicSet}
  {buffer : Bytes} {front rest : List Bool} {position : Nat} {state : BitState}

/-- A loop that starts with a predicted set has left bits of it after one round. -/
theorem not_setsAligned_predicted {sign : Bool} {distance : Nat} {flags : List PredictionFlags}
    (fits : (predicted sign distance flags).Fits false before) (few : before.numDeltaPocs < 2 ^ 64)
    (whole : bytesBits buffer = front ++ ((predicted sign distance flags).bits false ++ rest))
    (standing : Standing buffer position state front.length) :
    ¬SetsAligned checks false before (predicted sign distance flags :: sets) buffer position state
      front.length := by
  intro aligned
  obtain ⟨kept, bits, last, decodes, split⟩ := @predicted_cut checks _ _ _ _ fits few
  obtain ⟨final, stop, done, behind⟩ := aligned 1 (Nat.succ_le_succ (Nat.zero_le _))
  rw [split, List.append_assoc] at whole
  obtain ⟨middle, reached, read, there⟩ := decodes _ _ _ _ _ whole standing
  have one := (readRefPicSets_succ read 0 [] middle reached).mpr rfl
  cases one.symm.trans done
  -- The flags of the last picture are left, of which there is one at least.
  have place := there.unique behind
  have size := congrArg List.length split
  change _ = front.length + (RefPicSet.bits false _ ++ []).length at place
  rw [List.append_nil, size, List.length_append, PredictionFlags.bits, List.length_append,
    List.length_singleton] at place
  omega

/-- A set that is read to its end leaves the question to the sets behind it. -/
theorem setsAligned_cons_iff {set : RefPicSet} {middle : BitState} {reached : Nat}
    (read : readRefPicSet checks (known first before) state buffer position =
      .ok (((set.derive before).numDeltaPocs, middle), reached))
    (standing : Standing buffer position state front.length) :
    SetsAligned checks first before (set :: sets) buffer position state front.length ↔
      SetsAligned checks false (set.derive before) sets buffer reached middle
        (front ++ set.bits first).length := by
  constructor
  · intro aligned rounds bound
    obtain ⟨last, stop, done, behind⟩ := aligned (rounds + 1) (Nat.succ_le_succ bound)
    refine ⟨last, stop, (readRefPicSets_succ read _ _ _ _).mp done, ?_⟩
    rw [List.take_succ_cons, bitsAll, List.length_append, ← Nat.add_assoc,
      ← List.length_append] at behind
    exact behind
  · intro aligned rounds bound
    cases rounds with
    | zero => exact ⟨state, position, rfl, standing⟩
    | succ rounds =>
        obtain ⟨last, stop, done, behind⟩ := aligned rounds (Nat.le_of_succ_le_succ bound)
        refine ⟨last, stop, (readRefPicSets_succ read _ _ _ _).mpr done, ?_⟩
        rw [List.length_append, Nat.add_assoc, ← List.length_append] at behind
        exact behind

theorem setsAligned_iff (fits : FitAll first before sets) (few : before.numDeltaPocs < 2 ^ 64)
    (whole : bytesBits buffer = front ++ (bitsAll first sets ++ rest))
    (standing : Standing buffer position state front.length) :
    SetsAligned checks first before sets buffer position state front.length ↔
      ∀ set ∈ sets, set.isPredicted = false := by
  induction sets generalizing first before front position state with
  | nil =>
      refine iff_of_true (fun rounds none => ?_) (List.forall_mem_nil _)
      obtain rfl : rounds = 0 := Nat.le_zero.mp none
      exact ⟨state, position, rfl, standing⟩
  | cons set sets ih =>
      obtain ⟨here, others⟩ := fits
      rw [List.forall_mem_cons]
      rw [bitsAll, List.append_assoc] at whole
      cases set with
      | predicted sign distance flags =>
          obtain rfl : first = false := here.1
          exact iff_of_false (not_setsAligned_predicted here few whole standing) fun all => nomatch all.1
      | explicit negative positive =>
          have decodes := @decodes_set checks first before _ here rfl
          obtain ⟨middle, reached, read, there⟩ := decodes _ _ _ _ _ whole standing
          rw [← List.length_append] at there
          rw [← List.append_assoc] at whole
          have few : ((explicit negative positive).derive before).numDeltaPocs < 2 ^ 64 := by
            obtain ⟨one, two, _⟩ := here
            rw [derive, DeltaPocs.numDeltaPocs, length_accumulate, length_accumulate]
            omega
          rw [setsAligned_cons_iff read standing, ih others few whole there,
            and_iff_right (show (explicit negative positive).isPredicted = false from rfl)]

end

end RefPicSet

/-! ## Long-term pictures -/

structure LongTermPicture where
  pocLsb : Nat
  usedByCurrPic : Bool
  deriving DecidableEq, Repr

namespace LongTermPicture

/-- The order count has as many bits as the parameter set says. -/
def bits (width : Nat) (picture : LongTermPicture) : List Bool :=
  toBits width picture.pocLsb ++ [picture.usedByCurrPic]

/-- The order count happens to be an exponential Golomb code: behind one half of the bits, which are
zeros, stands a one. -/
def LooksCoded (width : Nat) (picture : LongTermPicture) : Prop :=
  width % 2 = 1 ∧ 2 ^ (width / 2) ≤ picture.pocLsb ∧ picture.pocLsb < 2 ^ (width / 2 + 1)

/-- After every round of the loop the parser stands at the end of a picture. -/
def PicturesAligned (checks : OverflowChecks) (width : Nat) (pictures : List LongTermPicture)
    (buffer : Bytes) (position : Nat) (state : BitState) (bit : Nat) : Prop :=
  ∀ rounds ≤ pictures.length, ∃ values last stop,
    repeatedly (skipPicture checks) rounds state buffer position = .ok ((values, last), stop) ∧
    Standing buffer stop last (bit + ((pictures.take rounds).flatMap (bits width)).length)

/-- An order count that happens to be a code is the one of its predecessor. -/
theorem toBits_eq_ueBits {half pocLsb : Nat} (low : 2 ^ half ≤ pocLsb) (high : pocLsb < 2 ^ (half + 1)) :
    toBits (2 * half + 1) pocLsb = ueBits (pocLsb - 1) := by
  have positive : 0 < pocLsb := Nat.lt_of_lt_of_le (Nat.two_pow_pos half) low
  have width : Nat.log2 pocLsb = half := (Nat.log2_eq_iff (by omega)).mpr ⟨low, high⟩
  have leading := toBits_leading positive
  have joint := toBits_append half (half + 1) 0 pocLsb high
  rw [toBits_zero, Nat.zero_mul, Nat.zero_add, show half + (half + 1) = 2 * half + 1 by omega] at joint
  rw [width] at leading
  rw [ueBits, Nat.sub_add_cancel positive, width, ← leading, joint]

/-- Bits that start with zeros and a one, and as many others, are a number of one half of them. -/
theorem bounds_of_digits {half pocLsb : Nat} {digits : List Bool} (small : pocLsb < 2 ^ (2 * half + 1))
    (length : digits.length = half)
    (shape : toBits (2 * half + 1) pocLsb = List.replicate half false ++ ([true] ++ digits)) :
    2 ^ half ≤ pocLsb ∧ pocLsb < 2 ^ (half + 1) := by
  have bound := ofBits_lt digits
  have code := ueBits_of_digits digits
  rw [length] at bound code
  have power : 2 ^ (half + 1) ≤ 2 ^ (2 * half + 1) := Nat.pow_le_pow_right (by decide) (by omega)
  rw [Nat.pow_succ] at power ⊢
  have same := toBits_eq_ueBits (Nat.le_add_right (2 ^ half) (ofBits digits))
    (show _ < 2 ^ (half + 1) by rw [Nat.pow_succ]; omega)
  rw [code, ← shape] at same
  have value := congrArg ofBits same
  rw [ofBits_toBits, ofBits_toBits, Nat.mod_eq_of_lt small, Nat.mod_eq_of_lt (by omega)] at value
  omega

theorem decodes_looksCoded (checks : OverflowChecks) {width : Nat} {picture : LongTermPicture}
    (narrow : width ≤ 16) (coded : picture.LooksCoded width) :
    Decodes (skipPicture checks) (picture.bits width) () := by
  obtain ⟨odd, low, high⟩ := coded
  obtain ⟨half, rfl⟩ : ∃ half, width = 2 * half + 1 := ⟨width / 2, by omega⟩
  rw [show (2 * half + 1) / 2 = half by omega] at low high
  have positive := Nat.two_pow_pos half
  have power : 2 ^ (half + 1) < 2 ^ 64 := Nat.pow_lt_pow_right (by decide) (by omega)
  rw [bits, toBits_eq_ueBits low high]
  exact (Decodes.readExpGolomb checks (by omega)).bind (Decodes.skipBits List.length_singleton)

section

variable {checks : OverflowChecks} {width : Nat} {picture : LongTermPicture} {buffer : Bytes}
  {front rest : List Bool} {position : Nat} {state : BitState}

/-- One picture is passed exactly if its order count looks like a code. -/
theorem passed_iff (narrow : width ≤ 16) (small : picture.pocLsb < 2 ^ width)
    (whole : bytesBits buffer = front ++ (picture.bits width ++ rest))
    (standing : Standing buffer position state front.length) :
    (∃ last stop, skipPicture checks state buffer position = .ok (((), last), stop) ∧
      Standing buffer stop last (front.length + (picture.bits width).length)) ↔
    picture.LooksCoded width := by
  have size : (picture.bits width).length = width + 1 := by
    rw [bits, List.length_append, length_toBits, List.length_singleton]
  constructor
  · rintro ⟨last, stop, done, behind⟩
    obtain ⟨number, middle, reached, read, skipped⟩ := sequence_ok_iff.mp done
    obtain ⟨count, there, one, near⟩ := standing_of_readExpGolomb standing read
    have place := (standing_of_skipBits Nat.one_pos there skipped).unique behind
    have counted := near (by omega)
    obtain rfl : width = 2 * zerosAt buffer front.length + 1 := by omega
    -- The count is cut into the zeros and the one, and as many bits.
    have found : slice buffer front.length (2 * zerosAt buffer front.length + 1) =
        toBits (2 * zerosAt buffer front.length + 1) picture.pocLsb := by
      rw [slice, whole, List.drop_left, bits, List.append_assoc, List.take_left' (length_toBits _ _)]
    have zeros : slice buffer front.length (zerosAt buffer front.length + 1) =
        List.replicate (zerosAt buffer front.length) false ++ [true] :=
      take_zeros (by rw [List.length_drop, length_bytesBits]; exact one)
    have room : 8 * buffer.length = front.length + (2 * zerosAt buffer front.length + 1 + 1) + rest.length := by
      have lengths := congrArg List.length whole
      rw [length_bytesBits, List.length_append, List.length_append, size] at lengths
      omega
    have length : (slice buffer (front.length + (zerosAt buffer front.length + 1))
        (zerosAt buffer front.length)).length = zerosAt buffer front.length :=
      length_slice (.inr (by omega))
    have split := slice_add buffer front.length (zerosAt buffer front.length + 1)
      (zerosAt buffer front.length)
    rw [show zerosAt buffer front.length + 1 + zerosAt buffer front.length =
      2 * zerosAt buffer front.length + 1 by omega, found, zeros, List.append_assoc] at split
    have bounds := bounds_of_digits small length split
    unfold LooksCoded
    rw [show (2 * zerosAt buffer front.length + 1) / 2 = zerosAt buffer front.length by omega]
    exact ⟨by omega, bounds⟩
  · exact fun coded => decodes_looksCoded checks narrow coded _ _ _ _ _ whole standing

end

/-- All pictures are passed exactly if all their order counts look like codes. -/
theorem picturesAligned_iff {checks : OverflowChecks} {width : Nat} {pictures : List LongTermPicture}
    {buffer : Bytes} {front rest : List Bool} {position : Nat} {state : BitState} (narrow : width ≤ 16)
    (small : ∀ picture ∈ pictures, picture.pocLsb < 2 ^ width)
    (whole : bytesBits buffer = front ++ (pictures.flatMap (bits width) ++ rest))
    (standing : Standing buffer position state front.length) :
    PicturesAligned checks width pictures buffer position state front.length ↔
      ∀ picture ∈ pictures, picture.LooksCoded width := by
  induction pictures generalizing front position state with
  | nil =>
      refine iff_of_true (fun rounds none => ?_) (List.forall_mem_nil _)
      obtain rfl : rounds = 0 := Nat.le_zero.mp none
      exact ⟨[], state, position, rfl, standing⟩
  | cons picture pictures ih =>
      rw [List.forall_mem_cons] at small ⊢
      rw [List.flatMap_cons, List.append_assoc] at whole
      have one := @passed_iff checks _ _ _ _ _ _ _ narrow small.1 whole standing
      rw [← List.append_assoc] at whole
      constructor
      · intro aligned
        obtain ⟨values, last, stop, done, behind⟩ := aligned 1 (Nat.succ_le_succ (Nat.zero_le _))
        obtain ⟨_, middle, reached, read, more⟩ := sequence_ok_iff.mp done
        cases more
        have there : Standing buffer stop last (front.length + (picture.bits width).length) := by
          rw [List.take_succ_cons, List.flatMap_cons, List.length_append, List.take_zero] at behind
          exact behind
        refine ⟨one.mp ⟨last, stop, read, there⟩, ?_⟩
        rw [← List.length_append] at there
        rw [← ih small.2 whole there]
        intro rounds bound
        obtain ⟨values, final, place, done, behind⟩ := aligned (rounds + 1) (Nat.succ_le_succ bound)
        obtain ⟨_, middle, reached, again, more⟩ := sequence_ok_iff.mp done
        cases read.symm.trans again
        obtain ⟨others, _, _, rest, same⟩ := sequence_ok_iff.mp more
        cases same
        refine ⟨others, final, place, rest, ?_⟩
        rw [List.take_succ_cons, List.flatMap_cons, List.length_append, ← Nat.add_assoc,
          ← List.length_append] at behind
        exact behind
      · rintro ⟨here, others⟩ rounds bound
        obtain ⟨middle, reached, read, there⟩ := one.mpr here
        rw [← List.length_append] at there
        have aligned := (ih small.2 whole there).mpr others
        cases rounds with
        | zero => exact ⟨[], state, position, rfl, standing⟩
        | succ rounds =>
            obtain ⟨values, last, stop, done, behind⟩ := aligned rounds (Nat.le_of_succ_le_succ bound)
            refine ⟨() :: values, last, stop, ?_, ?_⟩
            · exact (sequence_ok read).trans ((sequence_ok done).trans rfl)
            · rw [List.length_append, Nat.add_assoc, ← List.length_append] at behind
              exact behind

end LongTermPicture

/-! ## Sets and long-term pictures -/

/-- The fields behind the number of sets up to the long-term pictures, if there are any. -/
structure References where
  sets : List RefPicSet
  longTerm : Option (List LongTermPicture)
  deriving DecidableEq, Repr

namespace References

variable (fields : References) (width : Nat)

def setBits : List Bool := RefPicSet.bitsAll true fields.sets

def longTermBits : List Bool :=
  [fields.longTerm.isSome] ++ fields.longTerm.elim [] fun pictures =>
    ueBits pictures.length ++ pictures.flatMap (LongTermPicture.bits width)

def bits : List Bool := fields.setBits ++ fields.longTermBits width

/-- Every number has its width, which is between 4 and 16 for the order counts. -/
structure Fits : Prop where
  few : fields.sets.length < 2 ^ 32
  sets : RefPicSet.FitAll true ⟨[], []⟩ fields.sets
  wide : 4 ≤ width
  narrow : width ≤ 16
  longTermFew : ∀ pictures ∈ fields.longTerm, pictures.length < 2 ^ 32
  longTerm : ∀ pictures ∈ fields.longTerm, ∀ picture ∈ pictures, picture.pocLsb < 2 ^ width

/-- After every round of both loops the parser stands at the end of a set or of a picture, with the
numbers of pictures of the sets, and behind both it stands at the fields that follow. -/
structure Aligned (checks : OverflowChecks) (buffer : Bytes) (position : Nat) (state : BitState)
    (bit : Nat) : Prop where
  sets : ∀ rounds ≤ fields.sets.length, ∃ last stop,
    passSets checks fields.sets.length rounds state buffer position =
      .ok ((((RefPicSet.deriveAll ⟨[], []⟩ fields.sets).take rounds).map DeltaPocs.numDeltaPocs,
        last), stop) ∧
    Standing buffer stop last (bit + (RefPicSet.bitsAll true (fields.sets.take rounds)).length)
  longTerm : ∀ pictures ∈ fields.longTerm, ∀ rounds ≤ pictures.length, ∃ last stop,
    passPictures checks fields.sets.length rounds state buffer position = .ok (((), last), stop) ∧
    Standing buffer stop last (bit + (fields.setBits ++ ([true] ++ (ueBits pictures.length ++
      (pictures.take rounds).flatMap (LongTermPicture.bits width)))).length)
  behind : ∃ last stop,
    skipReferences checks fields.sets.length state buffer position = .ok (((), last), stop) ∧
    Standing buffer stop last (bit + (fields.bits width).length)

/-- What the loop keeps does not change where it stands. -/
theorem skipRefPicSets_of_read {checks : OverflowChecks} {count stop position : Nat}
    {previous : Option Nat} {counts : List Nat} {buffer : Bytes} {state last : BitState}
    (done : readRefPicSets checks count previous state buffer position =
      .ok ((counts, last), stop)) :
    skipRefPicSets checks count previous state buffer position = .ok (((), last), stop) := by
  induction count generalizing previous counts state position with
  | zero =>
      cases done
      rfl
  | succ count ih =>
      obtain ⟨numDeltaPocs, middle, reached, read, more⟩ := sequence_ok_iff.mp done
      obtain ⟨others, _, _, rest, same⟩ := sequence_ok_iff.mp more
      cases same
      exact (sequence_ok read).trans (ih rest)

/-- Few numbers fit into the memory. -/
theorem allocated {α : Type} {count : Nat} (few : count < 2 ^ 32) (next : Unit → BitReader α) :
    (between (allocate count) >>= next) = next () :=
  between_bind (if_pos (by omega)) next

section

variable {fields} {width} {checks : OverflowChecks} {buffer : Bytes} {position : Nat}
  {state : BitState} {front rest : List Bool} (fits : fields.Fits width)
  (whole : bytesBits buffer = front ++ (fields.bits width ++ rest))
  (standing : Standing buffer position state front.length)

include fits whole standing

theorem sets_aligned_iff :
    (∀ rounds ≤ fields.sets.length, ∃ last stop,
      passSets checks fields.sets.length rounds state buffer position =
        .ok ((((RefPicSet.deriveAll ⟨[], []⟩ fields.sets).take rounds).map DeltaPocs.numDeltaPocs,
          last), stop) ∧
      Standing buffer stop last
        (front.length + (RefPicSet.bitsAll true (fields.sets.take rounds)).length)) ↔
      ∀ set ∈ fields.sets, set.isPredicted = false := by
  rw [bits, setBits, List.append_assoc] at whole
  rw [← @RefPicSet.setsAligned_iff checks _ _ _ _ _ _ _ _ fits.sets (by decide) whole standing]
  have same (rounds : Nat) : passSets checks fields.sets.length rounds =
      readRefPicSets checks rounds (RefPicSet.known true ⟨[], []⟩) := allocated fits.few _
  simp only [same]
  rfl

/-- Explicit sets are passed. -/
theorem sets_passed (explicitly : ∀ set ∈ fields.sets, set.isPredicted = false) :
    ∃ middle reached,
      skipRefPicSets checks fields.sets.length none state buffer position = .ok (((), middle), reached) ∧
        Standing buffer reached middle (front ++ fields.setBits).length := by
  obtain ⟨middle, reached, read, there⟩ :=
    (@sets_aligned_iff _ _ checks _ _ _ _ _ fits whole standing).mpr explicitly _ (Nat.le_refl _)
  have same : passSets checks fields.sets.length fields.sets.length =
      readRefPicSets checks fields.sets.length none := allocated fits.few _
  rw [same] at read
  rw [List.take_length] at there
  refine ⟨middle, reached, skipRefPicSets_of_read read, ?_⟩
  rw [List.length_append]
  exact there

/-- Behind explicit sets the loop over the long-term pictures starts where it has to. -/
theorem reaches_pictures (explicitly : ∀ set ∈ fields.sets, set.isPredicted = false)
    {pictures : List LongTermPicture} (there : fields.longTerm = some pictures) :
    ∃ middle reached, Standing buffer reached middle
        (front ++ (fields.setBits ++ ([true] ++ ueBits pictures.length))).length ∧
      ∀ rounds last stop, passPictures checks fields.sets.length rounds state buffer position =
          .ok (((), last), stop) ↔
        ∃ values, repeatedly (skipPicture checks) rounds middle buffer reached =
          .ok ((values, last), stop) := by
  obtain ⟨first, place, skipped, passed⟩ := @sets_passed _ _ checks _ _ _ _ _ fits whole standing explicitly
  have layout : bytesBits buffer = front ++ fields.setBits ++ ([true] ++
      (ueBits pictures.length ++ (pictures.flatMap (LongTermPicture.bits width) ++ rest))) := by
    rw [whole, bits, longTermBits, there]
    simp only [Option.isSome_some, Option.elim_some, List.append_assoc]
  obtain ⟨second, next, flag, behind⟩ := Decodes.readBit true _ _ _ _ _ layout passed
  rw [← List.length_append] at behind
  rw [← List.append_assoc] at layout
  obtain ⟨middle, reached, number, start⟩ :=
    decodes_ue checks (fits.longTermFew pictures there) _ _ _ _ _ layout behind
  rw [← List.length_append, List.append_assoc, List.append_assoc] at start
  refine ⟨middle, reached, start, fun rounds last stop => ?_⟩
  have opened : passPictures checks fields.sets.length rounds state buffer position = (do
      let _ ← optionally true do
        let _ ← readExpGolomb checks
        repeatedly (skipPicture checks) rounds
      return () : BitReader Unit) second buffer next := by
    unfold passPictures
    rw [allocated fits.few, sequence_ok skipped, sequence_ok flag]
  rw [opened]
  constructor
  · intro done
    obtain ⟨_, _, _, inner, same⟩ := sequence_ok_iff.mp done
    cases same
    obtain ⟨values, _, _, loop, same⟩ := sequence_ok_iff.mp inner
    cases same
    obtain ⟨_, _, _, again, passed⟩ := sequence_ok_iff.mp loop
    cases number.symm.trans again
    exact ⟨values, passed⟩
  · rintro ⟨values, passed⟩
    have loop : (do
        let _ ← readExpGolomb checks
        repeatedly (skipPicture checks) rounds : BitReader (List Unit)) second buffer next =
        .ok ((values, last), stop) := (sequence_ok number).trans passed
    exact (sequence_ok ((sequence_ok loop).trans rfl)).trans rfl

/-- Behind everything, the parser stands at the fields that follow. -/
theorem references_passed (explicitly : ∀ set ∈ fields.sets, set.isPredicted = false)
    (coded : ∀ pictures ∈ fields.longTerm, ∀ picture ∈ pictures, picture.LooksCoded width) :
    ∃ last stop,
      skipReferences checks fields.sets.length state buffer position = .ok (((), last), stop) ∧
      Standing buffer stop last (front.length + (fields.bits width).length) := by
  obtain ⟨middle, reached, skipped, passed⟩ :=
    @sets_passed _ _ checks _ _ _ _ _ fits whole standing explicitly
  have pictures (pictures : List LongTermPicture) (there : pictures ∈ fields.longTerm) :
      Decodes (skipLongTermRefPics checks) (ueBits pictures.length ++
        pictures.flatMap (LongTermPicture.bits width)) () := by
    have few := fits.longTermFew pictures there
    refine (decodes_ue checks few).bind ?_
    rw [toNat_small few]
    have loop := Decodes.repeatedlyMap fun picture member =>
      LongTermPicture.decodes_looksCoded checks fits.narrow (coded pictures there picture member)
    exact loop.finish (Decodes.pure ())
  have rest : Decodes (do
      let longTermRefPicsPresentFlag ← readBit
      let _ ← optionally longTermRefPicsPresentFlag (skipLongTermRefPics checks)
      return ()) (fields.longTermBits width) () :=
    (Decodes.readBit fields.longTerm.isSome).bind ((decodes_optional pictures).finish (Decodes.pure ()))
  rw [bits, List.append_assoc, ← List.append_assoc] at whole
  obtain ⟨last, stop, done, behind⟩ := rest _ _ _ _ _ whole passed
  refine ⟨last, stop, ?_, ?_⟩
  · unfold skipReferences
    rw [allocated fits.few, sequence_ok skipped]
    exact done
  · rw [bits, List.length_append, ← Nat.add_assoc]
    rw [List.length_append] at behind
    exact behind

/-- Both loops take exactly the bits of their structures, and count the pictures of the sets, exactly
if no set is predicted and every order count of a long-term picture looks like a code. -/
theorem aligned_iff : fields.Aligned width checks buffer position state front.length ↔
    (∀ set ∈ fields.sets, set.isPredicted = false) ∧
      ∀ pictures ∈ fields.longTerm, ∀ picture ∈ pictures, picture.LooksCoded width := by
  have sets := @sets_aligned_iff _ _ checks _ _ _ _ _ fits whole standing
  have layout (pictures : List LongTermPicture) (there : fields.longTerm = some pictures) :
      bytesBits buffer = (front ++ (fields.setBits ++ ([true] ++ ueBits pictures.length))) ++
        (pictures.flatMap (LongTermPicture.bits width) ++ rest) := by
    rw [whole, bits, longTermBits, there]
    simp only [Option.isSome_some, Option.elim_some, List.append_assoc]
  have lengths (pictures : List LongTermPicture) (bits : List Bool) :
      front.length + (fields.setBits ++ ([true] ++ (ueBits pictures.length ++ bits))).length =
        (front ++ (fields.setBits ++ ([true] ++ ueBits pictures.length))).length + bits.length := by
    simp only [List.length_append]
    omega
  constructor
  · rintro ⟨passed, longTerm, _⟩
    have explicitly := sets.mp passed
    refine ⟨explicitly, fun pictures there => ?_⟩
    obtain ⟨middle, reached, start, loops⟩ :=
      @reaches_pictures _ _ checks _ _ _ _ _ fits whole standing explicitly _ there
    rw [← LongTermPicture.picturesAligned_iff fits.narrow (fits.longTerm pictures there)
      (layout pictures there) start]
    intro rounds bound
    obtain ⟨last, stop, done, behind⟩ := longTerm pictures there rounds bound
    obtain ⟨values, loop⟩ := (loops rounds last stop).mp done
    rw [lengths] at behind
    exact ⟨values, last, stop, loop, behind⟩
  · rintro ⟨explicitly, coded⟩
    refine ⟨sets.mpr explicitly, fun pictures there rounds bound => ?_,
      references_passed fits whole standing explicitly coded⟩
    obtain ⟨middle, reached, start, loops⟩ :=
      @reaches_pictures _ _ checks _ _ _ _ _ fits whole standing explicitly _ there
    obtain ⟨values, last, stop, loop, behind⟩ := (LongTermPicture.picturesAligned_iff fits.narrow
      (fits.longTerm pictures there) (layout pictures there) start).mpr (coded pictures there) rounds bound
    rw [← lengths] at behind
    exact ⟨last, stop, (loops rounds last stop).mpr ⟨values, loop⟩, behind⟩

end

/-- A set with one picture, and one that is predicted from it. -/
def predictedSample : References :=
  ⟨[.explicit [⟨0, true⟩] [], .predicted false 0 [⟨true, false⟩, ⟨true, false⟩]], none⟩

theorem predictedSample_misaligned : predictedSample.Fits 4 ∧
    bytesBits [0x5E, 0xE0] = [] ++ (predictedSample.bits 4 ++ List.replicate 4 false) ∧
    ¬predictedSample.Aligned 4 .on [0x5E, 0xE0] 0 ⟨0, 0⟩ 0 := by
  have fits : predictedSample.Fits 4 := by
    refine ⟨by decide, ⟨⟨by decide, by decide, by decide, by decide⟩, ⟨rfl, by decide, by decide⟩,
      trivial⟩, by decide, by decide, ?_, ?_⟩
    · rintro _ ⟨⟩
    · rintro _ ⟨⟩
  have whole : bytesBits [0x5E, 0xE0] = [] ++ (predictedSample.bits 4 ++ List.replicate 4 false) := by
    decide +kernel
  refine ⟨fits, whole, fun aligned => ?_⟩
  have explicitly := (sets_aligned_iff fits whole (Standing.start _)).mp aligned.sets
  exact absurd (explicitly _ (List.mem_cons_of_mem _ List.mem_cons_self)) (by decide)

/-- Explicit sets, and a long-term picture whose order count looks like a code. -/
def explicitSample : References :=
  ⟨[.explicit [⟨0, true⟩] [], .explicit [] [⟨1, false⟩]], some [⟨5, true⟩]⟩

theorem explicitSample_aligned : explicitSample.Fits 5 ∧
    bytesBits [0x5D, 0x49, 0x45, 0x80] = [] ++ (explicitSample.bits 5 ++ List.replicate 7 false) ∧
    explicitSample.Aligned 5 .on [0x5D, 0x49, 0x45, 0x80] 0 ⟨0, 0⟩ 0 := by
  have fits : explicitSample.Fits 5 := by
    refine ⟨by decide, ⟨⟨by decide, by decide, by decide, by decide⟩,
      ⟨by decide, by decide, by decide, by decide⟩, trivial⟩, by decide, by decide, ?_, ?_⟩
    · rintro _ ⟨⟩
      decide
    · rintro _ ⟨⟩
      decide
  have whole : bytesBits [0x5D, 0x49, 0x45, 0x80] =
      [] ++ (explicitSample.bits 5 ++ List.replicate 7 false) := by decide +kernel
  refine ⟨fits, whole, (aligned_iff fits whole (Standing.start _)).mpr ⟨by decide, ?_⟩⟩
  rintro _ ⟨⟩ picture member
  obtain rfl := List.mem_singleton.mp member
  exact ⟨by decide, by decide, by decide⟩

end References

end ScuffleVideo.H265
