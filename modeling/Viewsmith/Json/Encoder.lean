import Viewsmith.Json.Data

/-!
# Writing documents

Documents are written without blanks. Objects list their members in the order given.
-/

namespace Viewsmith.Json

def bracketed (opening closing : Char) (entries : List (List Char)) : List Char :=
  opening :: [','].intercalate entries ++ [closing]

def arrayText (items : List (List Char)) : List Char := bracketed '[' ']' items

def objectText (members : List (String × List Char)) : List Char :=
  bracketed '{' '}' (members.map fun m => quoted m.1 ++ ':' :: m.2)

def boolText (b : Bool) : List Char := (toString b).toList

end Viewsmith.Json
