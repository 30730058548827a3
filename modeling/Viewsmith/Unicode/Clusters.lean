import Viewsmith.Unicode.Ranges

/-!
# Grapheme clusters of a label

A reader sees some neighbouring characters as one: the jamo of a Hangul syllable, a letter and the
vowel sign written after it, a prefixed letter and what follows it. The rules here are those for
texts made of letters, decimal digits and spaces; such texts hold no controls, combining marks or
emoji, so whether two neighbours stay together depends on these two alone.
-/

namespace Viewsmith.Unicode

/-- How a letter, digit or space behaves at a cluster boundary. -/
inductive ClusterClass : Type where
  | lead            -- a leading Hangul jamo
  | vowel           -- a medial Hangul jamo, or a vowel that behaves like one
  | tail            -- a final Hangul jamo
  | openSyllable    -- a Hangul syllable without a final
  | closedSyllable  -- a Hangul syllable with a final
  | joining         -- stays with the character before it
  | prefixed        -- stays with the character after it
  | other
deriving DecidableEq, Repr

/-- Letters that stay with the character before them. -/
def joiningRanges : List (Nat × Nat) :=
  [(0xE33, 0xE33), (0xEB3, 0xEB3), (0xFF9E, 0xFF9F)]

/-- Letters that stay with the character after them. -/
def prefixedRanges : List (Nat × Nat) :=
  [(0xD4E, 0xD4E), (0x111C2, 0x111C3), (0x113D1, 0x113D1), (0x1193F, 0x1193F), (0x11941, 0x11941),
   (0x11A84, 0x11A89), (0x11D46, 0x11D46), (0x11F02, 0x11F02)]

def leadRanges : List (Nat × Nat) := [(0x1100, 0x115F), (0xA960, 0xA97C)]

/-- Medial Hangul jamo, and the Kirat Rai vowels that compose the same way. -/
def vowelRanges : List (Nat × Nat) :=
  [(0x1160, 0x11A7), (0xD7B0, 0xD7C6), (0x16D63, 0x16D63), (0x16D67, 0x16D6A)]

def tailRanges : List (Nat × Nat) := [(0x11A8, 0x11FF), (0xD7CB, 0xD7FB)]

/-- The class of a character. Hangul syllables come in blocks of 28: one without a final, then one
for each of the 27 finals. -/
def clusterClass (c : Char) : ClusterClass :=
  let n := c.toNat
  if 0xAC00 ≤ n ∧ n ≤ 0xD7A3 then
    if (n - 0xAC00) % 28 = 0 then .openSyllable else .closedSyllable
  else if inRanges leadRanges n then .lead
  else if inRanges vowelRanges n then .vowel
  else if inRanges tailRanges n then .tail
  else if inRanges joiningRanges n then .joining
  else if inRanges prefixedRanges n then .prefixed
  else .other

def joins (a b : Char) : Bool :=
  match clusterClass a, clusterClass b with
  | _, .joining => true
  | .prefixed, _ => true
  | .lead, .lead | .lead, .vowel | .lead, .openSyllable | .lead, .closedSyllable => true
  | .openSyllable, .vowel | .openSyllable, .tail | .vowel, .vowel | .vowel, .tail => true
  | .closedSyllable, .tail | .tail, .tail => true
  | _, _ => false

/-- Puts a character before a row of clusters, into the first one if it stays with it. -/
def pushCluster (c : Char) : List (List Char) → List (List Char)
  | (d :: cluster) :: more =>
      if joins c d then (c :: d :: cluster) :: more else [c] :: (d :: cluster) :: more
  | more => [c] :: more

def clusters (text : List Char) : List (List Char) := text.foldr pushCluster []

@[simp]
theorem flatten_pushCluster (c : Char) (row : List (List Char)) :
    (pushCluster c row).flatten = c :: row.flatten := by
  unfold pushCluster
  split
  · split <;> rfl
  · rfl

/-- Clusters lose nothing and keep the order. -/
theorem flatten_clusters (text : List Char) : (clusters text).flatten = text := by
  induction text with
  | nil => rfl
  | cons c rest ih => rw [clusters, List.foldr_cons, flatten_pushCluster]; exact congrArg _ ih

end Viewsmith.Unicode
