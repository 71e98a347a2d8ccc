import ConfigWiring.Proofs.WiringFile.StandardTemplate

/-!
# The text of a wiring file

The standard template writes the text of a wiring file from its package, its imports and its
descriptors alone; the variables of the process have no part in it.
-/

namespace ConfigWiring

open Template

namespace Template

variable {helpers : Helpers} {output : String} {scope : Scope} {names : List String}
  {rest : Nodes}

/-! ## Filling plain parts -/

theorem fill_cons_of_finished
    {first : Node}
    {filling after : Filling}
    (filled : first.fill helpers filling = .ok (after, .finished)) :
    (Nodes.cons first rest).fill helpers filling = rest.fill helpers after := by
  rw [Nodes.fill, filled]
  rfl

theorem fill_nil (helpers : Helpers) (filling : Filling) :
    Nodes.nil.fill helpers filling = .ok (filling, .finished) := rfl

theorem fill_cons_text (content : String) (rest : Nodes) :
    (Nodes.cons (.text content) rest).fill helpers ⟨output, scope⟩ =
      rest.fill helpers ⟨output ++ content, scope⟩ :=
  fill_cons_of_finished rfl

/-- A path of plain names goes along these names. -/
theorem resolve_ofNames (scope : Scope) (names : List String) :
    (Steps.ofNames names).resolve scope = some names := by
  induction names with
  | nil => rfl
  | cons name rest inductionHypothesis =>
      simp [Steps.ofNames, Steps.resolve, Step.resolve, inductionHypothesis]

/-- A member is the value that its names lead to. -/
theorem value_member
    {scene : Scene}
    {value : Value}
    (found : (Steps.ofNames names).value? scene.scope = some value) :
    (Expr.member names).value scene = .ok value := by
  rw [Expr.member, Expr.ofCore, Expr.value]
  simp only [Core.path?, found, Filters.fallback?]
  rfl

/-- A member counts as true exactly if the value does that its names lead to. -/
theorem holds_member
    {scene : Scene}
    {value : Value}
    (found : (Steps.ofNames names).value? scene.scope = some value) :
    (Expr.member names).holds scene = .ok value.isTrue := by
  rw [Expr.member, Expr.ofCore, Expr.holds]
  simp only [Core.path?, found, Filters.fallback?, Filters.apply, variableHolds, Bool.bne_false]

theorem fill_cons_shown
    {content : String}
    (found : (Steps.ofNames names).value? scope = some (.text content)) :
    (Nodes.cons (.shown (.member names)) rest).fill helpers ⟨output, scope⟩ =
      rest.fill helpers ⟨output ++ content, scope⟩ := by
  apply fill_cons_of_finished
  have shown : (Expr.member names).value (Filling.scene helpers ⟨output, scope⟩) =
      .ok (.text content) :=
    value_member found
  rw [Node.fill, shown]
  rfl

theorem fill_cons_choose
    {value : Value}
    {body otherwise : Nodes}
    {after : Filling}
    (found : (Steps.ofNames names).value? scope = some value)
    (holds : value.isTrue = true)
    (filled : body.fill helpers ⟨output, scope⟩ = .ok (after, .finished)) :
    (Nodes.cons (.choose (.member names) body otherwise) rest).fill helpers ⟨output, scope⟩ =
      rest.fill helpers after := by
  apply fill_cons_of_finished
  have shown : (Expr.member names).holds (Filling.scene helpers ⟨output, scope⟩) = .ok true :=
    holds ▸ holds_member found
  rw [Node.fill, shown]
  exact filled

/-- The turns through a list take its items in order. -/
theorem exists_turns_list (item : String) (items : List Value) :
    ∃ through : List Turn, turns none item (.list items) = .ok through ∧
      through.map Turn.value = items ∧ ∀ turn ∈ through, turn.key = none ∧ turn.item = item := by
  refine ⟨_, rfl, ?_, fun turn present => ?_⟩
  · rw [List.map_map]
    exact List.zipIdx_map_fst 0 items
  · obtain ⟨_, _, rfl⟩ := List.mem_map.1 present
    exact ⟨rfl, rfl⟩

section Repetition

variable {element : Type} {toValue : element -> Value} {textOf : element -> String}
  {item : String} {body : Nodes}

/-- The body of a repetition writes a text for each element whose value the item has. -/
def Writes
    (helpers : Helpers)
    (scope : Scope)
    (item : String)
    (body : Nodes)
    (toValue : element -> Value)
    (textOf : element -> String) : Prop :=
  ∀ (turn : Turn) (one : element) (output : String),
    turn.key = none -> turn.item = item -> turn.value = toValue one ->
      body.fill helpers ⟨output, scope.enter (.ofTurn turn)⟩ =
        .ok (⟨output ++ textOf one, scope.enter (.ofTurn turn)⟩, .finished)

/-- Turns through the values of some elements write their texts one behind the other. -/
theorem repeatTurns_of_writes
    (writes : Writes helpers scope item body toValue textOf)
    {turns : List Turn}
    {elements : List element}
    (values : turns.map Turn.value = elements.map toValue)
    (bindings : ∀ turn ∈ turns, turn.key = none ∧ turn.item = item)
    (output : String) :
    repeatTurns (body.fill helpers) turns ⟨output, scope⟩ =
      .ok ⟨output ++ String.join (elements.map textOf), scope⟩ := by
  induction elements generalizing turns output with
  | nil =>
      obtain rfl : turns = [] := by simpa using values
      simp [repeatTurns]
  | cons first rest inductionHypothesis =>
      cases turns with
      | nil => simp at values
      | cons turn others =>
          obtain ⟨value, otherValues⟩ := List.cons.inj values
          obtain ⟨keyless, named⟩ := bindings turn List.mem_cons_self
          have further := inductionHypothesis otherValues
            (fun other present => bindings other (List.mem_cons_of_mem _ present))
            (output ++ textOf first)
          rw [repeatTurns, writes turn first output keyless named value]
          show repeatTurns (body.fill helpers) others ⟨output ++ textOf first, scope⟩ = _
          rw [further]
          simp [String.append_assoc]

/-- A repetition whose body writes a text for each element of a list writes these texts. -/
theorem fill_cons_repeat
    (writes : Writes helpers scope item body toValue textOf)
    {elements : List element}
    (found : (Steps.ofNames names).value? scope = some (.list (elements.map toValue))) :
    (Nodes.cons (.repeat none item (.member names) body .nil) rest).fill helpers
        ⟨output, scope⟩ =
      rest.fill helpers ⟨output ++ String.join (elements.map textOf), scope⟩ := by
  apply fill_cons_of_finished
  obtain ⟨through, taken, values, bindings⟩ := exists_turns_list item (elements.map toValue)
  have written := repeatTurns_of_writes writes values bindings output
  have shown : (Expr.member names).value (Filling.scene helpers ⟨output, scope⟩) =
      .ok (.list (elements.map toValue)) :=
    value_member found
  have container : (Expr.member names).isContainer = true := rfl
  rw [Node.fill, shown, container]
  simp only [Bool.not_true, Bool.false_eq_true, if_false, bind, Except.bind, taken]
  cases through with
  | nil => exact congrArg (fun filled => filled.map (·, Ending.finished)) written
  | cons turn others => simp only [written]

end Repetition

/-- What the item of a turn and names behind it lead to. -/
theorem value?_enter_ofTurn
    (scope : Scope)
    {turn : Turn}
    {item : String}
    {value : Value}
    (keyless : turn.key = none)
    (named : turn.item = item)
    (plain : item ≠ "loop" ∧ item ≠ Scope.everything)
    (followed : turn.value.follow? names = some value) :
    (Steps.ofNames (item :: names)).value? (scope.enter (.ofTurn turn)) = some value := by
  have resolved : (Steps.ofNames (item :: names)).resolve (scope.enter (.ofTurn turn)) =
      some (item :: names) := resolve_ofNames _ _
  have found : turn.find? item names = some value := by
    unfold Turn.find?
    split
    · exact absurd rfl plain.1
    · rw [keyless, named]
      simpa using followed
  have framed : (Frame.ofTurn turn).find? (item :: names) = some value := found
  rw [Steps.value?, resolved, Option.bind_some, Scope.value?, if_neg (by simp [plain.2]),
    Scope.find?]
  simp only [Scope.enter, Scope.findIn, framed]

end Template

namespace WiringFile

/-! ## The standard text -/

/-- The line of an import. -/
def importText (path : String) : String := "\n\t\"" ++ path ++ "\""

/-- The line of an import for its side effects. -/
def sideEffectText (path : String) : String := "\n\t_ \"" ++ path ++ "\""

/-- The lines of the constructor of a descriptor. -/
def constructorText (descriptor : Descriptor) : String :=
  WiringTemplate.nameText ++ "\"" ++ descriptor.ctorName ++ "\"" ++ WiringTemplate.functionText ++
    descriptor.specType ++ WiringTemplate.variableText ++ descriptor.specType ++
    WiringTemplate.processText ++ "\"" ++ descriptor.namePrefix ++ "\"" ++
    WiringTemplate.returnText ++ ","

/-- The text of a wiring file with something to register. -/
def standardText (file : WiringFile) : String :=
  "package " ++ file.package ++
    WiringTemplate.remarkText ++ "import (" ++
    String.join (file.imports.map importText) ++
    String.join (file.sideEffects.map sideEffectText) ++
    "\n)" ++ WiringTemplate.initText ++ WiringTemplate.registerText ++ "(" ++
    String.join (file.descriptors.map constructorText) ++
    "\n\t)" ++
    "\n\x7d\n"

variable {helpers : Helpers} {scope : Template.Scope} {output : String}

theorem writes_importParts :
    Writes helpers scope "path" WiringTemplate.importParts Value.text importText := by
  intro turn path output keyless named held
  have found : (Steps.ofNames ["path"]).value? (scope.enter (.ofTurn turn)) =
      some (.text path) :=
    value?_enter_ofTurn scope keyless named (by decide) (by rw [held]; rfl)
  simp only [WiringTemplate.importParts, Nodes.ofList, fill_cons_text, fill_cons_shown found,
    fill_nil, importText, String.append_assoc]

theorem writes_sideEffectParts :
    Writes helpers scope "path" WiringTemplate.sideEffectParts Value.text sideEffectText := by
  intro turn path output keyless named held
  have found : (Steps.ofNames ["path"]).value? (scope.enter (.ofTurn turn)) =
      some (.text path) :=
    value?_enter_ofTurn scope keyless named (by decide) (by rw [held]; rfl)
  simp only [WiringTemplate.sideEffectParts, Nodes.ofList, fill_cons_text, fill_cons_shown found,
    fill_nil, sideEffectText, String.append_assoc]

/-- The members of a descriptor. -/
theorem follow?_toValue (descriptor : Descriptor) :
    descriptor.toValue.follow? ["ctor_name"] = some (.text descriptor.ctorName) ∧
      descriptor.toValue.follow? ["spec_type"] = some (.text descriptor.specType) ∧
      descriptor.toValue.follow? ["prefix"] = some (.text descriptor.namePrefix) := by
  simp [Descriptor.toValue, Value.follow?, Value.member?, List.lookup_cons]

theorem writes_constructorParts :
    Writes helpers scope "cfg" WiringTemplate.constructorParts Descriptor.toValue
      constructorText := by
  intro turn descriptor output keyless named held
  obtain ⟨ctorName, specType, namePrefix⟩ := follow?_toValue descriptor
  rw [← held] at ctorName specType namePrefix
  have plain : "cfg" ≠ "loop" ∧ "cfg" ≠ Template.Scope.everything := by decide
  have ctorNameFound := value?_enter_ofTurn scope keyless named plain ctorName
  have specTypeFound := value?_enter_ofTurn scope keyless named plain specType
  have namePrefixFound := value?_enter_ofTurn scope keyless named plain namePrefix
  simp only [WiringTemplate.constructorParts, Nodes.ofList]
  rw [fill_cons_text, fill_cons_shown ctorNameFound, fill_cons_text, fill_cons_shown specTypeFound,
    fill_cons_text, fill_cons_shown specTypeFound, fill_cons_text,
    fill_cons_shown namePrefixFound, fill_cons_text, fill_nil]
  unfold constructorText
  simp only [String.append_assoc]

/-- What the names of a wiring file lead to outside of all repetitions. -/
theorem value?_initial_givens (file : WiringFile) :
    let scope := Template.Scope.initial
      (file.givens.foldl (fun held (name, value) => bindName name value held) [])
    (Steps.ofNames ["package"]).value? scope = some (.text file.package) ∧
      (Steps.ofNames ["imports"]).value? scope = some (.list (file.imports.map Value.text)) ∧
      (Steps.ofNames ["side_effects"]).value? scope =
        some (.list (file.sideEffects.map Value.text)) ∧
      (Steps.ofNames ["configs"]).value? scope =
        some (.list (file.descriptors.map Descriptor.toValue)) :=
  ⟨rfl, rfl, rfl, rfl⟩

/-- The parts of the standard template write the standard text. -/
theorem fill_standardParts
    {file : WiringFile}
    (something : file.descriptors ≠ [])
    (package : (Steps.ofNames ["package"]).value? scope = some (.text file.package))
    (imports : (Steps.ofNames ["imports"]).value? scope =
      some (.list (file.imports.map Value.text)))
    (sideEffects : (Steps.ofNames ["side_effects"]).value? scope =
      some (.list (file.sideEffects.map Value.text)))
    (configs : (Steps.ofNames ["configs"]).value? scope =
      some (.list (file.descriptors.map Descriptor.toValue))) :
    WiringTemplate.standardParts.fill helpers ⟨"", scope⟩ =
      .ok (⟨file.standardText, scope⟩, .finished) := by
  have holds : (Value.list (file.descriptors.map Descriptor.toValue)).isTrue = true := by
    simpa [Value.isTrue] using something
  have chosen (output : String) :
      (Nodes.ofList [
        .text (WiringTemplate.registerText ++ "("),
        .repeat none "cfg" (.member ["configs"]) WiringTemplate.constructorParts .nil,
        .text "\n\t)"]).fill helpers ⟨output, scope⟩ =
      .ok (⟨output ++ (WiringTemplate.registerText ++ "(") ++
        String.join (file.descriptors.map constructorText) ++ "\n\t)", scope⟩, .finished) := by
    simp only [Nodes.ofList]
    rw [fill_cons_text, fill_cons_repeat writes_constructorParts configs, fill_cons_text, fill_nil]
  unfold WiringTemplate.standardParts
  rw [Nodes.ofList, fill_cons_text, Nodes.ofList, fill_cons_shown package, Nodes.ofList,
    fill_cons_text, Nodes.ofList, fill_cons_repeat writes_importParts imports, Nodes.ofList,
    fill_cons_repeat writes_sideEffectParts sideEffects, Nodes.ofList, fill_cons_text,
    Nodes.ofList, fill_cons_choose configs holds (chosen _), Nodes.ofList, fill_cons_text,
    Nodes.ofList, fill_nil]
  unfold standardText
  simp only [String.append_assoc, String.empty_append]

end WiringFile

namespace WiringTemplate

/-- With something to register the standard template writes the standard text, whatever the
variables of the process. -/
theorem render_standardParts
    {file : WiringFile}
    (something : file.descriptors ≠ [])
    (environment : Environment) :
    (WiringTemplate.mk standardParts).render environment file =
      .ok (.source file.standardText) := by
  have nonempty : file.descriptors.isEmpty = false := by simpa using something
  obtain ⟨package, imports, sideEffects, configs⟩ := WiringFile.value?_initial_givens file
  rw [render, nonempty, Source.fill]
  simp only [Bool.false_eq_true, if_false,
    WiringFile.fill_standardParts something package imports sideEffects configs]
  rfl

end WiringTemplate
end ConfigWiring
