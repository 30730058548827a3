import Mathlib.Data.List.Basic
import Viewsmith.CommandLine.Run
import Viewsmith.Proofs.Code.Failures
import Viewsmith.Proofs.Code.Previews
import Viewsmith.Proofs.CommandLine.Files
import Viewsmith.Proofs.Design.RoundTrip

/-!
# Runs of the generate command

A run of the generate command is all or nothing: it fails before anything is visible, or it delivers
the code. What a request comes to is told by the files that it loads and by the generators of source
files and previews (`GenerateRequest.Yields`), and so is what goes wrong (`GenerateRequest.FailsWith`):
the design comes first, then the settings, then the generation. Whether the code is printed or written
to a file makes no difference to the code or to the failure (`run_generate`).
-/

namespace Viewsmith.CommandLine

/-- Whether a file can be read and holds something that a parser accepts. -/
def Holds {α : Type} (fs : FileSystem) (parse : String → Json.Decoded α) (path : String) (x : α) :
    Prop :=
  ∃ text, fs.readText path = .ok text ∧ parse text = .ok x

/-- Why nothing can be had from a file that is read for a purpose: it cannot be read, or a parser
refuses what is read. -/
inductive SourceFails {α : Type} (fs : FileSystem) (source : Source)
    (parse : String → Json.Decoded α) (path : String) : RunError → Prop where
  | unreadable {fault : FileFault} (refused : fs.readText path = .error fault) :
      SourceFails fs source parse path (.unreadable source path fault)
  | undecodable {text : String} {error : Json.DecodeError} (read : fs.readText path = .ok text)
      (refused : parse text = .error error) :
      SourceFails fs source parse path (.undecodable source path error)

namespace GenerateRequest

/-- Whether a request is for a design and settings: its files hold them, and without a file for
settings they are the default ones. -/
structure Loads (request : GenerateRequest) (fs : FileSystem) (design : Design)
    (settings : Settings) : Prop where
  design : Holds fs Design.parse request.input design
  settings : match request.settings with
    | none => settings = {}
    | some path => Holds fs Settings.parse path settings

/-- What a request yields for a design and settings: the source file, or, if a preview is asked for,
the content of the preview. It mounts on the default root tag unless the request has one. -/
inductive Yields (request : GenerateRequest) (settings : Settings) (design : Design) :
    Except GenerateError String → Prop where
  | source (plain : request.preview = false) :
      Yields request settings design (generate settings design).result
  | preview (asked : request.preview = true) :
      Yields request settings design
        ((generatePreview settings design (request.rootTag.getD defaultRootTag)).result.map
          GeneratedFile.content)

/-- Why a request fails. The settings matter once there is a design, and the generation once there
are both. -/
inductive FailsWith (request : GenerateRequest) (fs : FileSystem) : RunError → Prop where
  | design {e : RunError} (fails : SourceFails fs .design Design.parse request.input e) :
      FailsWith request fs e
  | settings {design : Design} {path : String} {e : RunError}
      (loaded : Holds fs Design.parse request.input design) (given : request.settings = some path)
      (fails : SourceFails fs .settings Settings.parse path e) : FailsWith request fs e
  | generation {design : Design} {settings : Settings} {e : GenerateError}
      (loaded : request.Loads fs design settings)
      (fails : request.Yields settings design (.error e)) : FailsWith request fs (.generation e)

end GenerateRequest

/-! ## Sources -/

section

variable {α : Type} {fs : FileSystem} {source : Source} {parse : String → Json.Decoded α}
  {path : String}

theorem readSource_eq_ok {x : α} :
    readSource fs.readText source parse path = .ok x ↔ Holds fs parse path x := by
  unfold readSource Holds
  cases fs.readText path with
  | error fault => simp
  | ok text =>
      simp only [Except.ok.injEq, exists_eq_left']
      cases parse text <;> simp

theorem readSource_eq_error {e : RunError} :
    readSource fs.readText source parse path = .error e ↔ SourceFails fs source parse path e := by
  constructor
  · intro failed
    unfold readSource at failed
    cases read : fs.readText path with
    | error fault =>
        rw [read] at failed
        cases failed
        exact .unreadable read
    | ok text =>
        rw [read] at failed
        simp only at failed
        cases parsed : parse text with
        | error error =>
            rw [parsed] at failed
            cases failed
            exact .undecodable read parsed
        | ok x =>
            rw [parsed] at failed
            cases failed
  · intro fails
    unfold readSource
    cases fails with
    | unreadable refused => rw [refused]
    | undecodable read refused =>
        rw [read]
        simp only [refused]

end

/-! ## Products -/

namespace GenerateRequest

def readSettings (request : GenerateRequest) (read : Reader) : Except RunError Settings :=
  match request.settings with
  | none => .ok {}
  | some path => readSource read .settings Settings.parse path

variable {request : GenerateRequest} {fs : FileSystem} {design : Design} {settings : Settings}

theorem loads_iff :
    request.Loads fs design settings ↔
      readSource fs.readText .design Design.parse request.input = .ok design ∧
        request.readSettings fs.readText = .ok settings := by
  have second : request.readSettings fs.readText = .ok settings ↔
      match request.settings with
      | none => settings = {}
      | some path => Holds fs Settings.parse path settings := by
    rw [readSettings]
    cases request.settings with
    | none => simp [eq_comm]
    | some path => exact readSource_eq_ok
  rw [readSource_eq_ok, second]
  exact ⟨fun h => ⟨h.design, h.settings⟩, fun h => ⟨h.1, h.2⟩⟩

theorem yields_iff {result : Except GenerateError String} :
    request.Yields settings design result ↔ (request.code settings design).result = result := by
  have previewed (o : Outcome GeneratedFile) :
      (o.andThen fun file => .ok file.content).result = o.result.map GeneratedFile.content := by
    rw [Outcome.andThen]
    cases o.result <;> rfl
  rw [code]
  constructor
  · rintro (plain | asked)
    · rw [plain, if_neg Bool.false_ne_true]
    · rw [asked, if_pos rfl, previewed]
  · rintro rfl
    cases asked : request.preview with
    | false =>
        rw [if_neg Bool.false_ne_true]
        exact .source asked
    | true =>
        rw [if_pos rfl, previewed]
        exact .preview asked

/-- What a request makes: the code, once its files have been read in order. -/
theorem product_eq (request : GenerateRequest) (read : Reader) :
    (Command.generate request).product read = (do
      let design ← readSource read .design Design.parse request.input
      let settings ← request.readSettings read
      match (request.code settings design).result with
      | .error e => .error (.generation e)
      | .ok text => return ⟨text, request.output, (request.code settings design).log⟩) := by
  rw [Command.product, readSettings]
  cases request.settings <;> rfl

theorem product_of_failsWith {e : RunError} (fails : request.FailsWith fs e) :
    (Command.generate request).product fs.readText = .error e := by
  rw [product_eq]
  cases fails with
  | design fails =>
      rw [readSource_eq_error.mpr fails]
      rfl
  | settings loaded given fails =>
      rw [readSource_eq_ok.mpr loaded]
      simp only [bind, Except.bind, readSettings, given]
      rw [readSource_eq_error.mpr fails]
  | generation loaded fails =>
      obtain ⟨first, second⟩ := loads_iff.mp loaded
      rw [first, second]
      simp only [bind, Except.bind, yields_iff.mp fails]

theorem product_of_loads (loaded : request.Loads fs design settings) {code : String}
    (yields : request.Yields settings design (.ok code)) :
    (Command.generate request).product fs.readText
      = .ok ⟨code, request.output, (request.code settings design).log⟩ := by
  obtain ⟨first, second⟩ := loads_iff.mp loaded
  rw [product_eq, first, second]
  simp only [bind, Except.bind, yields_iff.mp yields]
  rfl

/-- A request fails, or it makes code. -/
theorem failsWith_or_loads (request : GenerateRequest) (fs : FileSystem) :
    (∃ e, request.FailsWith fs e) ∨
      ∃ design settings code, request.Loads fs design settings ∧
        request.Yields settings design (.ok code) := by
  cases first : readSource fs.readText .design Design.parse request.input with
  | error e => exact Or.inl ⟨e, .design (readSource_eq_error.mp first)⟩
  | ok design =>
      have loaded := readSource_eq_ok.mp first
      cases second : request.readSettings fs.readText with
      | error e =>
          rw [readSettings] at second
          cases given : request.settings with
          | none =>
              rw [given] at second
              cases second
          | some path =>
              rw [given] at second
              exact Or.inl ⟨e, .settings loaded given (readSource_eq_error.mp second)⟩
      | ok settings =>
          have loads := loads_iff.mpr ⟨first, second⟩
          cases generated : (request.code settings design).result with
          | error e => exact Or.inl ⟨_, .generation loads (yields_iff.mpr generated)⟩
          | ok code => exact Or.inr ⟨design, settings, code, loads, yields_iff.mpr generated⟩

/-- Where the code goes is no part of what a request is for. -/
theorem loads_withOutput (output : Option String) :
    { request with output := output }.Loads fs design settings ↔ request.Loads fs design settings :=
  ⟨fun h => ⟨h.design, h.settings⟩, fun h => ⟨h.design, h.settings⟩⟩

theorem yields_withOutput (output : Option String) {result : Except GenerateError String} :
    { request with output := output }.Yields settings design result ↔
      request.Yields settings design result := by
  rw [yields_iff, yields_iff]
  rfl

theorem FailsWith.withOutput {e : RunError} (fails : request.FailsWith fs e)
    (output : Option String) : { request with output := output }.FailsWith fs e := by
  cases fails with
  | design fails => exact .design fails
  | settings loaded given fails => exact .settings loaded given fails
  | generation loaded fails =>
      exact .generation ((loads_withOutput output).mpr loaded) ((yields_withOutput output).mpr fails)

end GenerateRequest

/-! ## Runs -/

/-- The run of a request whose code is to go to an output. -/
def GenerateRequest.runTo (request : GenerateRequest) (output : Option String) (fs : FileSystem) :
    Run :=
  (Command.generate { request with output := output }).run fs

/-- A request of the generate command either fails, with the complaint about the design before that
about the settings and that before the one about the generation, or it makes code. Wherever the code
is to go, a request that fails prints nothing and leaves all files as they are; and one that makes code
prints exactly the code and leaves all files as they are, or, given the path of a file that can be
written, prints nothing and writes exactly the code to that file and to no other, be it one of those
that have been read. -/
theorem run_generate (request : GenerateRequest) (fs : FileSystem) :
    ((∃ e, request.FailsWith fs e) ∨ ∃ design settings code, request.Loads fs design settings ∧
        request.Yields settings design (.ok code)) ∧
      (∀ e, request.FailsWith fs e → ∀ output,
        (request.runTo output fs).result = .error e ∧ (request.runTo output fs).printed = "" ∧
          (request.runTo output fs).files = fs) ∧
      ∀ design settings code, request.Loads fs design settings →
        request.Yields settings design (.ok code) →
        ((request.runTo none fs).result = .ok () ∧ (request.runTo none fs).printed = code ∧
          (request.runTo none fs).files = fs) ∧
        ∀ path place, fs.Accepts path place →
          (request.runTo (some path) fs).result = .ok () ∧
            (request.runTo (some path) fs).printed = "" ∧
            fs.Writes path code (request.runTo (some path) fs).files := by
  refine ⟨request.failsWith_or_loads fs, ?fails, ?makes⟩
  case fails =>
    intro e fails output
    have product := GenerateRequest.product_of_failsWith (fails.withOutput output)
    have run : request.runTo output fs = .failed e fs := by
      rw [GenerateRequest.runTo, Command.run, product]
    rw [run]
    exact ⟨rfl, rfl, rfl⟩
  case makes =>
    intro design settings code loaded yields
    have product (output : Option String) := GenerateRequest.product_of_loads
      ((GenerateRequest.loads_withOutput output).mpr loaded)
      ((GenerateRequest.yields_withOutput output).mpr yields)
    have run (output : Option String) : request.runTo output fs
        = Product.deliver ⟨code, output, (request.code settings design).log⟩ fs := by
      rw [GenerateRequest.runTo, Command.run, product]
      rfl
    constructor
    · rw [run]
      exact ⟨rfl, rfl, rfl⟩
    · intro path place accepts
      have written : fs.writeText path code = .ok (fs.put place (.file code.toUTF8)) :=
        FileSystem.writeText_eq_ok.mpr ⟨place, accepts, rfl⟩
      rw [run, Product.deliver]
      simp only [written]
      exact ⟨trivial, trivial, accepts.writes code⟩

def filesOf (design : Design) : FileSystem :=
  FileSystem.empty.put ["card.json"] (.file design.toJson.toUTF8)

def cardRequest (settings : Option String) : GenerateRequest :=
  { input := "card.json", settings := settings, output := none, preview := false, rootTag := none }

def cardPreviewRequest (rootTag : Option String) : GenerateRequest :=
  { cardRequest none with preview := true, rootTag := rootTag }

theorem accepts_card : FileSystem.empty.Accepts "card.json" ["card.json"] where
  leads := by decide
  named := by decide
  free := by
    have absent : FileSystem.empty.find? ["card.json"] = none := rfl
    rw [absent]
    intro directory
    cases directory

theorem holds_filesOf {design : Design} (numbers : ∀ x ∈ design.numbers, ReadsBack x)
    (shallow : Json.nesting design.encode < Json.nestingLimit) :
    Holds (filesOf design) Design.parse "card.json" design :=
  ⟨_, (accepts_card.writes design.toJson).reads,
    Json.decodeText_of_spells (spells_design numbers) shallow⟩

theorem accepts_filesOf (design : Design) :
    (filesOf design).Accepts "card.json" ["card.json"] where
  leads := rfl
  named := by decide
  free := by
    have occupied : (filesOf design).find? ["card.json"] = some (.file design.toJson.toUTF8) :=
      FileSystem.find?_put accepts_card.free _
    rw [occupied]
    intro directory
    cases directory

theorem yields_card : (cardRequest none).Yields {} cardDesign
    (.ok (String.ofList (layOutLines {} cardLines))) := by
  rw [← generate_card]
  exact .source rfl

theorem yields_cardPreview (rootTag : Option String) :
    (cardPreviewRequest rootTag).Yields {} cardDesign
      (.ok (previewOpening ++ String.ofList (layOutLines {} cardLines) ++ (previewMounting ++ "<")
        ++ "Card" ++ (" />" ++ previewRunning ++ "document.getElementById('")
        ++ rootTag.getD "component" ++ ("')," ++ previewClosing))) := by
  have name : pascalName cardDesign.root.name = "Card" := by decide
  have preview : (cardPreviewRequest rootTag).Yields {} cardDesign _ := .preview rfl
  rwa [content_generatePreview, generate_card, name] at preview

theorem yields_namelessPreview (rootTag : Option String) :
    (cardPreviewRequest rootTag).Yields {} namelessDesign
      (.error (.invalidStyle ⟨"card", "", .emptyProperty⟩)) := by
  have failed : (generate {} namelessDesign).result
      = .error (.invalidStyle ⟨"card", "", .emptyProperty⟩) := by decide
  have preview : (cardPreviewRequest rootTag).Yields {} namelessDesign _ := .preview rfl
  rwa [content_generatePreview, failed] at preview

/-- The code of the card can be written over the design of the card. Where the settings are missing,
the design stays. A preview is printed with the root tag that is asked for, or else with the default
one; and of a card that is refused there is no preview. -/
theorem run_generate_card :
    ((cardRequest none).runTo (some "card.json") (filesOf cardDesign)).result = .ok () ∧
      (filesOf cardDesign).Writes "card.json" (String.ofList (layOutLines {} cardLines))
        ((cardRequest none).runTo (some "card.json") (filesOf cardDesign)).files ∧
      ((cardRequest (some "settings.json")).runTo (some "card.json") (filesOf cardDesign)).result
        = .error (.unreadable .settings "settings.json" .notFound) ∧
      ((cardRequest (some "settings.json")).runTo (some "card.json") (filesOf cardDesign)).files
        = filesOf cardDesign ∧
      (∀ rootTag : Option String,
        ((cardPreviewRequest rootTag).runTo none (filesOf cardDesign)).printed
          = previewOpening ++ String.ofList (layOutLines {} cardLines)
            ++ (previewMounting ++ "<") ++ "Card"
            ++ (" />" ++ previewRunning ++ "document.getElementById('") ++ rootTag.getD "component"
            ++ ("')," ++ previewClosing)) ∧
      ((cardPreviewRequest none).runTo (some "card.json") (filesOf namelessDesign)).result
        = .error (.generation (.invalidStyle ⟨"card", "", .emptyProperty⟩)) ∧
      ((cardPreviewRequest none).runTo (some "card.json") (filesOf namelessDesign)).files
        = filesOf namelessDesign := by
  have card : Holds (filesOf cardDesign) Design.parse "card.json" cardDesign :=
    holds_filesOf (by decide +kernel) (by decide +kernel)
  have nameless : Holds (filesOf namelessDesign) Design.parse "card.json" namelessDesign :=
    holds_filesOf (by decide +kernel) (by decide +kernel)
  have unreadable : (cardRequest (some "settings.json")).FailsWith (filesOf cardDesign)
      (.unreadable .settings "settings.json" .notFound) :=
    .settings card rfl (.unreadable rfl)
  have refused : (cardPreviewRequest none).FailsWith (filesOf namelessDesign)
      (.generation (.invalidStyle ⟨"card", "", .emptyProperty⟩)) :=
    .generation ⟨nameless, rfl⟩ (yields_namelessPreview none)
  obtain ⟨-, -, makes⟩ := run_generate (cardRequest none) (filesOf cardDesign)
  obtain ⟨-, writes⟩ := makes cardDesign {} _ ⟨card, rfl⟩ yields_card
  obtain ⟨result, -, written⟩ := writes "card.json" ["card.json"] (accepts_filesOf cardDesign)
  obtain ⟨-, fails, -⟩ := run_generate (cardRequest (some "settings.json")) (filesOf cardDesign)
  obtain ⟨failed, -, kept⟩ := fails _ unreadable (some "card.json")
  obtain ⟨-, fails, -⟩ := run_generate (cardPreviewRequest none) (filesOf namelessDesign)
  obtain ⟨unmade, -, left⟩ := fails _ refused (some "card.json")
  refine ⟨result, written, failed, kept, fun rootTag => ?_, unmade, left⟩
  obtain ⟨-, -, makes⟩ := run_generate (cardPreviewRequest rootTag) (filesOf cardDesign)
  obtain ⟨⟨-, printed, -⟩, -⟩ := makes cardDesign {} _ ⟨card, rfl⟩ (yields_cardPreview rootTag)
  exact printed

end Viewsmith.CommandLine
