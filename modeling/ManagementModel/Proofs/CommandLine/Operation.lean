import ManagementModel.CommandLine.Session
import ManagementModel.Proofs.CommandLine.Parameter
import ManagementModel.Proofs.Operation
import ManagementModel.Proofs.Template.Wildcards

/-!
# ManagementModel — which operation a command line asks for

Three things can go wrong between a command and its operation, and they are looked at in a fixed
order: the template may be none, it may not resolve, and one of the parameters may be none. The
first of them decides on the error, and of several bad parameters the leftmost one.

The name of the operation is not looked at. Built operations are not checked as trees are, so a
command can ask for an operation whose own tree would be refused; a blank name is all it takes, and
nothing else does.

Main results:

* `operation_eq_ok_iff`, `operation_eq_error_iff` — each outcome of each command.
* `operation_outcome` — when a named operation comes out, what it is, and what is refused.
* `operation_accepted_iff` — when the tree of an operation that came out would be accepted.
-/

namespace ManagementModel.CommandLine

variable {selection : Template.Selection} {policy : Template.Policy} {e : CommandError}

/-! ## Addresses -/

section

variable {text : String} {address : Address}

/-- A text gives an address if it is a template that resolves. -/
theorem resolveText_eq_ok_iff : resolveText text selection policy = .ok address ↔
    ∃ t, Template.parse text = .ok t ∧ t.resolveWith selection policy [] = .ok address := by
  simp [resolveText]

/-- A text that is no template is refused before one that does not resolve. -/
theorem resolveText_eq_error_iff : resolveText text selection policy = .error e ↔
    (∃ cause, Template.parse text = .error cause ∧ e = .invalidTemplate text cause) ∨
      ∃ t, Template.parse text = .ok t ∧
        ∃ cause, t.resolveWith selection policy [] = .error cause ∧ e = .unresolved t cause := by
  simp [resolveText]

end

/-! ## Commands -/

/-- Commands that run a named operation; the parameters are given as texts. -/
inductive Command.Runs (template name : String) (texts : List String) : Command → Prop where
  | exec : Runs template name texts (.exec template name texts)
  | upload (file field : String) :
    Runs template name texts (.upload file template name texts field)

section

variable {i : Invocation} {command : Command} {template name : String} {texts : List String}
  {op : Operation} {parameters : List (String × Node)}

theorem Command.Runs.template_eq (h : command.Runs template name texts) :
    command.template = template := by
  cases h <;> rfl

theorem Command.Runs.operationName_eq (h : command.Runs template name texts) :
    command.operationName = name := by
  cases h <;> rfl

theorem Command.Runs.parameters_eq (h : command.Runs template name texts) :
    command.parameters = readParameters texts := by
  cases h <;> rfl

/-- The names that commands have of themselves are not blank. -/
theorem Command.runs_of_isBlank (h : Text.isBlank command.operationName = true) :
    ∃ template texts, command.Runs template command.operationName texts := by
  cases command with
  -- the names of the other commands are fixed words
  | read => exact absurd (show Text.isBlank readName = true from h) (by decide)
  | describe => exact absurd (show Text.isBlank Operation.descriptionName = true from h) (by decide)
  | exec template name texts => exact ⟨template, texts, .exec⟩
  | upload file template name texts field => exact ⟨template, texts, .upload file field⟩

/-- Parameters are flags that are set, or they are read from texts. -/
theorem Command.forall_mem_of_parameters {P : Node → Prop} (h : command.parameters = .ok parameters)
    (hflag : P (.boolean true)) (hread : ∀ {text p}, readParameter text = .ok p → P p.2) :
    ∀ p ∈ parameters, P p.2 := by
  -- a flag that is set has one value only
  have hflags : ∀ flags, ∀ p ∈ flagParameters flags, P p.2 := by
    intro flags p hp
    obtain ⟨flag, -, rfl⟩ := List.mem_map.mp hp
    exact hflag
  cases command with
  | read template recursive runtime => cases h; exact hflags _
  | describe template recursive operations => cases h; exact hflags _
  | exec template name texts => exact forall_mem_of_readParameters h hread
  | upload file template name texts field => exact forall_mem_of_readParameters h hread

/-- The operation is built from the address, the name and the parameters. -/
theorem Invocation.operation_eq_ok_iff : i.operation selection = .ok op ↔
    ∃ address, resolveText i.command.template selection i.options.policy = .ok address ∧
      ∃ parameters, i.command.parameters = .ok parameters ∧
        .build address i.command.operationName parameters = op := by
  simp [operation]

/-- The address comes before the parameters. -/
theorem Invocation.operation_eq_error_iff : i.operation selection = .error e ↔
    resolveText i.command.template selection i.options.policy = .error e ∨
      (∃ address, resolveText i.command.template selection i.options.policy = .ok address) ∧
        i.command.parameters = .error e := by
  simp [operation]

/-- An operation that came out is built from well-formed parameters without a NaN. -/
theorem Invocation.exists_of_operation (h : i.operation selection = .ok op) :
    ∃ address parameters, .build address i.command.operationName parameters = op ∧
      (∀ p ∈ parameters, p.2.WellFormed) ∧ ∀ p ∈ parameters, p.2.NaNFree := by
  obtain ⟨address, -, parameters, hparameters, hop⟩ := Invocation.operation_eq_ok_iff.mp h
  -- flags that are set are well formed, and so are values that were read
  refine ⟨address, parameters, hop, ?_, ?_⟩
  · exact Command.forall_mem_of_parameters hparameters (Node.wellFormed_of_not_container rfl)
      wellFormed_of_readParameter
  · exact Command.forall_mem_of_parameters hparameters (Node.nanFree_scalar rfl nofun)
      nanFree_of_readParameter

end

/-! ## Acceptance -/

/-- The tree of an operation that came out has an address and a name, and it equals itself. It is
accepted as the same operation exactly if the name has a visible character, and refused for its name
otherwise. Then the name was given with the command. -/
theorem Invocation.operation_accepted_iff {i : Invocation} {op : Operation}
    (h : i.operation selection = .ok op) :
    op.node.has Operation.addressField = true ∧ op.node.has Operation.nameField = true ∧
      op.node.same op.node = true ∧
      (Operation.ofNode op.node = .ok op ↔
        ∃ c ∈ i.command.operationName.toList, Text.isBlankChar c = false) ∧
      (Operation.ofNode op.node = .error .invalidName ↔
        ∀ c ∈ i.command.operationName.toList, Text.isBlankChar c = true) ∧
      (Operation.ofNode op.node = .error .invalidName →
        ∃ template texts, i.command.Runs template op.name texts) := by
  obtain ⟨address, parameters, rfl, hwell, hfree⟩ := Invocation.exists_of_operation h
  refine ⟨Operation.has_build address _ parameters rfl,
    Operation.has_build address _ parameters rfl, ?_,
    Operation.ofNode_build_eq_ok_iff address _ parameters,
    Operation.ofNode_build_eq_error_iff address _ parameters, ?_⟩
  · -- only a parameter could bring a NaN or a repeated name with it
    have hdouble : ∀ n : Node, n.kind ≠ .double →
        ∀ bits, n = .double bits → Binary64.isNaN bits = false := by
      rintro _ hkind bits rfl
      exact absurd rfl hkind
    rw [Node.same_self_iff (Operation.wellFormed_build address _ hwell)]
    exact Operation.throughout_build hdouble hfree
  · rw [Operation.ofNode_build_eq_error_iff, Operation.name_build]
    exact fun hblank => Command.runs_of_isBlank (List.all_eq_true.mpr hblank)

/-- An operation without a name is asked for, and its tree would be refused. -/
theorem Invocation.operation_accepted_iff_empty_name :
    let i : Invocation := ⟨{}, .exec "/" "" []⟩
    let op := Operation.build ⟨[]⟩ "" []
    Invocation.ofArguments ["hal", "exec", "/", ""] = .ok i ∧ i.operation .empty = .ok op ∧
      Operation.ofNode op.node = .error .invalidName := by
  intro i op
  have hop : i.operation .empty = .ok op :=
    Invocation.operation_eq_ok_iff.mpr ⟨⟨[]⟩, by decide, [], rfl, rfl⟩
  obtain ⟨-, -, -, -, hrefused, -⟩ := Invocation.operation_accepted_iff hop
  exact ⟨by decide, hop, hrefused.mpr nofun⟩

/-! ## Named operations -/

/-- Why a named operation does not come out. -/
inductive Refusal (selection : Template.Selection) (policy : Template.Policy) (template : String)
    (texts : List String) : CommandError → Prop where
  /-- The template is none. -/
  | template {cause : TemplateError} (h : Template.parse template = .error cause) :
    Refusal selection policy template texts (.invalidTemplate template cause)
  /-- The template does not resolve. -/
  | resolution {t : Template} {cause : TemplateError} (ht : Template.parse template = .ok t)
    (h : t.resolveWith selection policy [] = .error cause) :
    Refusal selection policy template texts (.unresolved t cause)
  /-- The template resolves, and one of the parameters is the first that is none. -/
  | parameter {t : Template} {address : Address} {text : String} {e : CommandError}
    (ht : Template.parse template = .ok t)
    (haddress : t.resolveWith selection policy [] = .ok address)
    (h : FirstRefused readParameter texts text e) : Refusal selection policy template texts e

theorem Options.policy_eq_strict_iff {o : Options} : o.policy = .strict ↔ o.strict = true := by
  unfold policy
  cases o.strict <;> decide

section

variable {options : Options} {command : Command} {template name : String} {texts : List String}
  {op : Operation}

/-- What comes out is built from what was given. -/
theorem Command.Runs.operation_eq_ok_iff (h : command.Runs template name texts) :
    Invocation.operation ⟨options, command⟩ selection = .ok op ↔
      ∃ address, resolveText template selection options.policy = .ok address ∧
        ∃ parameters, readParameters texts = .ok parameters ∧
          .build address name parameters = op := by
  rw [Invocation.operation_eq_ok_iff, h.template_eq, h.operationName_eq, h.parameters_eq]

/-- What does not come out is refused for one of the three reasons. -/
theorem Command.Runs.operation_eq_error_iff (h : command.Runs template name texts) :
    Invocation.operation ⟨options, command⟩ selection = .error e ↔
      Refusal selection options.policy template texts e := by
  rw [Invocation.operation_eq_error_iff, h.template_eq, h.parameters_eq, readParameters,
    mapM_eq_error_iff, resolveText_eq_error_iff]
  simp only [resolveText_eq_ok_iff]
  -- the first two refusals come from the address, the third one when there is an address
  constructor
  · rintro ((⟨cause, hparse, rfl⟩ | ⟨t, ht, cause, hresolve, rfl⟩) |
      ⟨⟨address, t, ht, haddress⟩, text, hfirst⟩)
    · exact .template hparse
    · exact .resolution ht hresolve
    · exact .parameter ht haddress hfirst
  · intro hrefusal
    cases hrefusal with
    | template hparse => exact .inl (.inl ⟨_, hparse, rfl⟩)
    | resolution ht hresolve => exact .inl (.inr ⟨_, ht, _, hresolve, rfl⟩)
    | parameter ht haddress hfirst => exact .inr ⟨⟨_, _, ht, haddress⟩, _, hfirst⟩

/-- An operation comes out if the template resolves and all texts are parameters. -/
theorem Command.Runs.exists_operation_iff (h : command.Runs template name texts) :
    (∃ op, Invocation.operation ⟨options, command⟩ selection = .ok op) ↔
      (∃ t address, Template.parse template = .ok t ∧
        t.resolveWith selection options.policy [] = .ok address) ∧
      ∀ text ∈ texts, ∃ p, readParameter text = .ok p := by
  -- all texts are parameters exactly if there are parameters for all of them
  rw [← exists_mapM_eq_ok_iff]
  simp only [h.operation_eq_ok_iff, resolveText_eq_ok_iff]
  constructor
  · rintro ⟨op, address, ⟨t, ht, haddress⟩, parameters, hparameters, -⟩
    exact ⟨⟨t, address, ht, haddress⟩, parameters, hparameters⟩
  · rintro ⟨⟨t, address, ht, haddress⟩, parameters, hparameters⟩
    exact ⟨_, address, ⟨t, ht, haddress⟩, parameters, hparameters, rfl⟩

/-- A parameter with a reserved name might as well be missing, as long as it is one. -/
theorem Command.Runs.operation_eq_of_reserved {before after : List String} {text : String}
    {p : String × Node} {other : Command}
    (h : command.Runs template name (before ++ text :: after))
    (hother : other.Runs template name (before ++ after)) (hread : readParameter text = .ok p)
    (hp : Operation.isReserved p.1 = true) :
    Invocation.operation ⟨options, other⟩ selection =
      Invocation.operation ⟨options, command⟩ selection := by
  -- whatever the address is, the text is read, and then its parameter is passed over
  have hremove : ∀ address,
      (readParameters (before ++ text :: after)).map (Operation.build address name) =
        (readParameters (before ++ after)).map (Operation.build address name) := by
    refine fun address => map_mapM_remove hread (fun front back => ?_) before after
    exact Operation.build_congr address name (Operation.unreserved_of_reserved hp front back)
  unfold Invocation.operation
  simp only [h.template_eq, h.operationName_eq, h.parameters_eq, hother.template_eq,
    hother.operationName_eq, hother.parameters_eq, bind_pure_comp]
  exact congrArg _ (funext fun address => (hremove address).symm)

end

/-- A command that runs a named operation gets it exactly if its template resolves and all of its
parameters are some; the permissive policy resolves every template, the strict one those whose
segments all have values. Otherwise the template, its resolution and the leftmost bad parameter
decide on the error, in this order. The operation has the address that the template resolves to and
the name that was given. A parameter has the value of the last text that names it, and what is not
named is not there. A parameter with a reserved name might as well be missing. -/
theorem operation_outcome (options : Options) (selection : Template.Selection) {command : Command}
    {template name : String} {texts : List String} (h : command.Runs template name texts) :
    let result := Invocation.operation ⟨options, command⟩ selection
    ((∃ op, result = .ok op) ↔
      (∃ t address, Template.parse template = .ok t ∧
        t.resolveWith selection options.policy [] = .ok address) ∧
      ∀ text ∈ texts, ∃ p, readParameter text = .ok p) ∧
    (∀ t : Template, (∃ address, t.resolveWith selection options.policy [] = .ok address) ↔
      (options.strict = true → ∀ s ∈ t.segments, s.hasValue selection = true)) ∧
    (∀ e, result = .error e ↔ Refusal selection options.policy template texts e) ∧
    (∀ op, result = .ok op →
      (∃ t, Template.parse template = .ok t ∧
        t.resolveWith selection options.policy [] = .ok op.address) ∧
      op.name = name ∧
      (∀ before text after, texts = before ++ text :: after →
        Operation.isReserved (givenName text) = false → givenName text ∉ after.map givenName →
        ∃ value, readParameter text = .ok (givenName text, value) ∧
          op.parameter? (givenName text) = some value) ∧
      ∀ key, Operation.isReserved key = false → key ∉ texts.map givenName →
        op.parameter? key = none) ∧
    ∀ before text after p other, texts = before ++ text :: after → readParameter text = .ok p →
      Operation.isReserved p.1 = true → other.Runs template name (before ++ after) →
      Invocation.operation ⟨options, other⟩ selection = result := by
  intro result
  refine ⟨h.exists_operation_iff, ?_, fun e => h.operation_eq_error_iff, ?_, ?_⟩
  · intro t
    rw [Template.exists_resolveWith_iff, Options.policy_eq_strict_iff]
  · intro op hop
    obtain ⟨address, haddress, parameters, hread, rfl⟩ := h.operation_eq_ok_iff.mp hop
    refine ⟨?_, Operation.name_build address name parameters, ?_, ?_⟩
    · -- the address is the one that the template resolves to
      rw [Operation.address_build]
      exact resolveText_eq_ok_iff.mp haddress
    · rintro before text after rfl hkey hlast
      -- the parameters split where the texts do
      obtain ⟨front, rest, -, hrest, rfl⟩ := exists_of_mapM_append hread
      obtain ⟨⟨key, value⟩, back, htext, hback, rfl⟩ := exists_of_mapM_cons hrest
      obtain rfl : key = givenName text := (exists_of_readParameter htext).1
      rw [← names_of_readParameters hback] at hlast
      refine ⟨value, htext, ?_⟩
      rw [Operation.parameter?_build address name _ hkey, Fields.get?_reverse_of_last hlast]
    · intro key hkey hnot
      rw [← names_of_readParameters hread] at hnot
      rw [Operation.parameter?_build address name _ hkey, Fields.get?_reverse_eq_none hnot]
  · rintro before text after p other rfl hread hp hother
    exact h.operation_eq_of_reserved hother hread hp

/-- The last text names the same parameter as the first, and the one between them does not count. -/
theorem operation_outcome_named_twice :
    let options : Options := { strict := true, profile := some "full" }
    let template := "/profile=\x7bselected.profile\x7d/subsystem=logging"
    let operation (texts : List String) :=
      Invocation.operation ⟨options, .exec template "add" texts⟩ options.selection
    (∃ op, operation ["level=INFO", "address=x", " level =WARN"] = .ok op ∧
      operation ["level=INFO", " level =WARN"] = .ok op ∧ op.name = "add" ∧
      op.parameter? "level" = some (.string "WARN") ∧ op.parameter? "enabled" = none) ∧
    operation ["level=INFO", "enabled", "=true"] = .error (.notNameAndValue "enabled") := by
  intro options template operation
  let t : Template := ⟨[.placeholder "profile" "\x7bselected.profile\x7d",
    .literal "subsystem" "logging"]⟩
  let address : Address := ⟨[("profile", "full"), ("subsystem", "logging")]⟩
  have ht : Template.parse template = .ok t := by decide
  have haddress : t.resolveWith options.selection options.policy [] = .ok address := by decide
  have hruns : ∀ texts, Command.Runs template "add" texts (.exec template "add" texts) :=
    fun _ => .exec
  constructor
  · obtain ⟨hcomes, -, -, hmade, hreserved⟩ := operation_outcome options options.selection
      (hruns ["level=INFO", "address=x", " level =WARN"])
    have hread : ∀ text ∈ ["level=INFO", "address=x", " level =WARN"],
        ∃ p, readParameter text = .ok p := by
      simp only [List.forall_mem_cons]
      exact ⟨⟨_, rfl⟩, ⟨_, rfl⟩, ⟨_, rfl⟩, nofun⟩
    obtain ⟨op, hop⟩ := hcomes.mpr ⟨⟨t, address, ht, haddress⟩, hread⟩
    obtain ⟨-, hname, hlast, hmissing⟩ := hmade op hop
    refine ⟨op, hop, ?_, hname, ?_, hmissing "enabled" rfl (by decide)⟩
    · rw [← hop]
      exact hreserved ["level=INFO"] "address=x" [" level =WARN"] ("address", .string "x") _ rfl
        rfl rfl (hruns _)
    · obtain ⟨value, htext, hvalue⟩ := hlast ["level=INFO", "address=x"] " level =WARN" [] rfl rfl
        List.not_mem_nil
      cases htext
      exact hvalue
  · obtain ⟨-, -, hrefused, -, -⟩ := operation_outcome options options.selection
      (hruns ["level=INFO", "enabled", "=true"])
    have hfirst : FirstRefused readParameter ["level=INFO", "enabled", "=true"] "enabled"
        (.notNameAndValue "enabled") :=
      ⟨["level=INFO"], ["=true"], rfl, List.forall_mem_singleton.mpr ⟨_, rfl⟩, rfl⟩
    exact (hrefused _).mpr (.parameter ht haddress hfirst)

end ManagementModel.CommandLine
