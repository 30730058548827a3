import Viewsmith.Unicode.CaseMaps
import Viewsmith.Unicode.Clusters
import Viewsmith.Unicode.Letters

/-!
# Words of a label

A label is free text: `Selected-Tab`, `is open`, `user2FA`, `XMLHttpRequest`. Its words are found in
two steps. Everything that is neither a letter nor a decimal digit separates: the label is reduced
to its runs of letters and digits, joined by single spaces. Then each run is divided where the case
changes, where digits begin or end, and before the last capital of an acronym.
-/

namespace Viewsmith

open Unicode

/-! ## Separators -/

def isWordChar (c : Char) : Bool := isLetter c || isDecimalDigit c

/-- The maximal runs of letters and decimal digits of a text. -/
def wordRuns (text : List Char) : List (List Char) :=
  (text.splitOnP (!isWordChar ·)).filter (!·.isEmpty)

/-- A label with every separating run replaced by one space, and none at the ends. -/
def spacedLabel (label : List Char) : List Char := [' '].intercalate (wordRuns label)

/-! ## Boundaries inside a run

Case is judged cluster by cluster. A cluster without case, such as `日`, is neither upper nor lower.
-/

/-- Whether a cluster has case and is written in capitals. -/
def isUpperCluster (cluster : List Char) : Bool :=
  upper cluster != lower cluster && cluster == upper cluster

/-- Whether a cluster has case and is written in small letters. -/
def isLowerCluster (cluster : List Char) : Bool :=
  upper cluster != lower cluster && cluster == lower cluster

def isDigitCluster (cluster : List Char) : Bool := cluster.all Char.isDigit

/-- Whether a word ends between two neighbouring clusters. -/
def changesKind (a b : List Char) : Bool :=
  (isLowerCluster a && isUpperCluster b)
    || (isUpperCluster a && isDigitCluster b)
    || (isDigitCluster a && isUpperCluster b)
    || (isDigitCluster a && isLowerCluster b)
    || (isLowerCluster a && isDigitCluster b)

/-- Whether a word ends after a cluster, given the clusters that follow. The last capital of an
acronym belongs to the next word when a small letter follows it. -/
def endsWord (a : List Char) : List (List Char) → Bool
  | [] => false
  | [b] => changesKind a b
  | b :: c :: _ =>
      changesKind a b || (isUpperCluster a && isUpperCluster b && isLowerCluster c)

/-- Divides clusters into words, dropping spaces. The first word is the one that is open where the
clusters begin; words may be empty. -/
def splitClusters : List (List Char) → List (List Char)
  | [] => [[]]
  | cluster :: rest =>
      if cluster = [' '] then [] :: splitClusters rest
      else if endsWord cluster rest then cluster :: splitClusters rest
      else (splitClusters rest).modifyHead (cluster ++ ·)

def labelWords (label : List Char) : List (List Char) :=
  (splitClusters (clusters (spacedLabel label))).filter (!·.isEmpty)

end Viewsmith
