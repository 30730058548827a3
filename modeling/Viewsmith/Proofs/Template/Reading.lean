import Mathlib.Data.List.Basic
import Viewsmith.Template.Render

/-!
# Reading and rendering templates

A template is read as literal texts with tags between them. Literal text in which no tag begins is
taken as it stands (`splitAtTag_append`), so a text put together of such pieces and of tags that can
be read is read as the segments of its pieces in turn (`ofChars?_of_writes`). Rendering joins what
the segments render to and never reads it again (`render_append`).
-/

namespace Viewsmith

namespace Template

/-! ## Literal text -/

/-- Whether no tag begins in a text, nor one that begins right after it takes anything from it: it
has no backslash, no two opening braces and no opening brace at its end. -/
def isTagFree : List Char → Bool
  | [] => true
  | '{' :: rest => rest.head?.any (· != '{') && isTagFree rest
  | c :: rest => c != '\\' && isTagFree rest

theorem isTagFree_cons_iff {c : Char} {rest : List Char} : isTagFree (c :: rest) = true ↔
    c ≠ '\\' ∧ (c = '{' → ∃ d, rest.head? = some d ∧ d ≠ '{') ∧ isTagFree rest = true := by
  by_cases brace : c = '{'
  · subst brace
    simp [isTagFree, Option.any_eq_true]
  · rw [isTagFree]
    · simp [brace]
    · exact brace

theorem isTagFree_append : ∀ {s t : List Char}, isTagFree s = true → isTagFree t = true →
    isTagFree (s ++ t) = true
  | [], _, _, ht => ht
  | c :: rest, t, hs, ht => by
      obtain ⟨slash, brace, below⟩ := isTagFree_cons_iff.mp hs
      rw [List.cons_append]
      refine isTagFree_cons_iff.mpr ⟨slash, fun opens => ?_, isTagFree_append below ht⟩
      obtain ⟨d, first, other⟩ := brace opens
      exact ⟨d, by rw [List.head?_append, first, Option.some_or], other⟩

theorem isTagFree_flatMap {α : Type} {f : α → List Char} {items : List α}
    (h : ∀ a ∈ items, isTagFree (f a) = true) : isTagFree (items.flatMap f) = true := by
  induction items with
  | nil => rfl
  | cons a rest ih =>
      rw [List.forall_mem_cons] at h
      exact isTagFree_append h.1 (ih h.2)

theorem isTagFree_toList {chars : List Char} (h : isTagFree chars = true) :
    isTagFree (String.ofList chars).toList = true := by
  rw [String.toList_ofList]
  exact h

/-- A character that neither escapes nor begins a tag is literal text. -/
theorem splitAtTag_cons {c : Char} {text : List Char} (slash : c ≠ '\\')
    (brace : c = '{' → text.head? ≠ some '{') :
    splitAtTag (c :: text) = (c :: (splitAtTag text).1, (splitAtTag text).2) := by
  rw [splitAtTag.eq_def]
  split
  · rename_i whole
    cases whole
  · rename_i whole
    obtain ⟨rfl, rfl⟩ := List.cons.inj whole
    exact absurd rfl (brace rfl)
  · rename_i whole
    exact absurd (List.cons.inj whole).1 slash
  · rename_i whole
    exact absurd (List.cons.inj whole).1 slash
  · rename_i whole
    obtain ⟨rfl, rfl⟩ := List.cons.inj whole
    simp [slash]

/-- Text in which no tag begins is the literal text before the first tag of what follows it. -/
theorem splitAtTag_append : ∀ {s : List Char}, isTagFree s = true → ∀ t : List Char,
    splitAtTag (s ++ t) = (s ++ (splitAtTag t).1, (splitAtTag t).2)
  | [], _, _ => rfl
  | c :: rest, h, t => by
      obtain ⟨slash, brace, below⟩ := isTagFree_cons_iff.mp h
      have single : c = '{' → (rest ++ t).head? ≠ some '{' := by
        intro opens
        obtain ⟨d, first, other⟩ := brace opens
        rw [List.head?_append, first, Option.some_or]
        simpa using other
      rw [List.cons_append, splitAtTag_cons slash single, splitAtTag_append below]
      rfl

/-! ## Templates piece by piece -/

def literal (text : List Char) : Template := if text.isEmpty then [] else [.text text]

/-- Whether a text writes a template: literal text in which no tag begins, and tags between it. -/
inductive Writes : List Char → Template → Prop
  | plain {text : List Char} (free : isTagFree text = true) : Writes text (literal text)
  | tagged {text tag rest : List Char} {segments more : Template} (free : isTagFree text = true)
      (read : readTag? (tag ++ rest) = some (segments, rest)) (later : Writes rest more) :
      Writes (text ++ '{' :: '{' :: (tag ++ rest)) (literal text ++ segments ++ more)

theorem readSegments?_of_writes {text : List Char} {t : Template} (h : Writes text t) :
    ∀ {fuel : Nat}, text.length < fuel → readSegments? fuel text = some t := by
  induction h with
  | @plain text free =>
      intro fuel enough
      obtain ⟨fuel, rfl⟩ : ∃ k, fuel = k + 1 := Nat.exists_eq_succ_of_ne_zero (by omega)
      have split := splitAtTag_append free []
      rw [List.append_nil, splitAtTag, List.append_nil] at split
      simp only [readSegments?, split, literal]
  | @tagged text tag rest segments more free read _ ih =>
      intro fuel enough
      obtain ⟨fuel, rfl⟩ : ∃ k, fuel = k + 1 := Nat.exists_eq_succ_of_ne_zero (by omega)
      have split := splitAtTag_append free ('{' :: '{' :: (tag ++ rest))
      rw [splitAtTag, List.append_nil] at split
      -- The braces that open the tag pay for the segments that come after it.
      have enough' : rest.length < fuel := by
        simp only [List.length_append, List.length_cons] at enough
        omega
      simp only [readSegments?, split, read, literal, bind, Option.bind, ih enough']
      rfl

/-- A text that writes a template is read as that template. -/
theorem ofChars?_of_writes {text : List Char} {t : Template} (h : Writes text t) :
    ofChars? text = some t :=
  readSegments?_of_writes h (Nat.lt_succ_self _)

/-- The characters of lines that all end in a line feed. -/
def lineChars (lines : List String) : List Char := lines.flatMap fun line => line.toList ++ ['\n']

theorem lineChars_append (lines more : List String) :
    lineChars (lines ++ more) = lineChars lines ++ lineChars more :=
  List.flatMap_append

/-- A literal of the program is the text of its characters, so what is decided of these holds of a
line that is given by a literal. -/
theorem isTagFree_line {chars : List Char} (h : isTagFree (chars ++ ['\n']) = true) :
    isTagFree ((String.ofList chars).toList ++ ['\n']) = true := by
  rw [String.toList_ofList]
  exact h

/-- A line of the text before its tag, the tag and the text after it. -/
theorem toList_tagLine {line text tag after : List Char}
    (h : line = text ++ '{' :: '{' :: (tag ++ after)) :
    (String.ofList line).toList = (String.ofList text).toList
      ++ '{' :: '{' :: ((String.ofList tag).toList ++ (String.ofList after).toList) := by
  simp only [String.toList_ofList, h]

/-- Lines up to one that holds a tag, after text that is left over from the line before them. What
that line has after its tag is left over for the lines that follow. -/
theorem Writes.tagLine {start text tag after : List Char} {lines later : List String} {line : String}
    {segments more : Template} (startFree : isTagFree start = true)
    (linesFree : ∀ line ∈ lines, isTagFree (line.toList ++ ['\n']) = true)
    (shape : line.toList = text ++ '{' :: '{' :: (tag ++ after)) (textFree : isTagFree text = true)
    (read : ∀ rest, readTag? (tag ++ rest) = some (segments, rest))
    (below : Writes (after ++ ['\n'] ++ lineChars later) more) :
    Writes (start ++ lineChars (lines ++ line :: later))
      (literal (start ++ lineChars lines ++ text) ++ segments ++ more) := by
  have free : isTagFree (start ++ lineChars lines ++ text) = true :=
    isTagFree_append (isTagFree_append startFree (isTagFree_flatMap linesFree)) textFree
  have whole : start ++ lineChars (lines ++ line :: later) = (start ++ lineChars lines ++ text)
      ++ '{' :: '{' :: (tag ++ (after ++ ['\n'] ++ lineChars later)) := by
    rw [lineChars_append]
    simp [lineChars, shape]
  rw [whole]
  exact .tagged free (read _) below

/-- The lines after the last tag. -/
theorem Writes.lastLines {start : List Char} {lines : List String} (startFree : isTagFree start = true)
    (linesFree : ∀ line ∈ lines, isTagFree (line.toList ++ ['\n']) = true) :
    Writes (start ++ lineChars lines) (literal (start ++ lineChars lines)) :=
  .plain (isTagFree_append startFree (isTagFree_flatMap linesFree))

/-! ## Rendering -/

variable {context : Json.Data}

theorem render_singleton {segment : Segment} {text : String}
    (h : segment.render context = .ok text) : render [segment] context = .ok text := by
  rw [render, List.mapM_cons, h, List.mapM_nil]
  show Except.ok (String.join [text]) = _
  rw [String.join_cons, String.join_nil, String.append_empty]

theorem render_literal (text : List Char) : (literal text).render context = .ok (String.ofList text) := by
  cases text with
  | nil => rfl
  | cons c rest => exact render_singleton rfl

/-- A value is inserted as it is, with nothing escaped. -/
theorem render_value {path : String} {d : Json.Data} (found : context.at? path = .ok (some d)) :
    render [.value path] context = .ok d.render := by
  apply render_singleton
  rw [Segment.render, found]
  rfl

/-- The naming helper makes a component name of a text. -/
theorem render_pascalCall {path text : String} (found : context.at? path = .ok (some (.string text))) :
    render [.call pascalHelper [.path path]] context = .ok (pascalName text) := by
  apply render_singleton
  rw [Segment.render, List.mapM_cons, List.mapM_nil, Argument.value?, found]
  rfl

/-- What one part of a template renders to is not read again by the other. -/
theorem render_append {t u : Template} {first second : String} (front : t.render context = .ok first)
    (back : u.render context = .ok second) : (t ++ u).render context = .ok (first ++ second) := by
  rw [render] at front back ⊢
  rw [List.mapM_append]
  cases parts : t.mapM (·.render context) with
  | error e =>
      rw [parts] at front
      cases front
  | ok texts =>
      cases others : u.mapM (·.render context) with
      | error e =>
          rw [others] at back
          cases back
      | ok more =>
          rw [parts] at front
          rw [others] at back
          rw [← Except.ok.inj front, ← Except.ok.inj back]
          show Except.ok (String.join (texts ++ more)) = _
          rw [String.join_append]

end Template

end Viewsmith
