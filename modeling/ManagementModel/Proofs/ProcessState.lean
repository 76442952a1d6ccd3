import ManagementModel.ProcessState
import ManagementModel.Proofs.Node.Reading
import Mathlib.Data.List.Nodup

/-!
# ManagementModel — the states that a reply reports

The reply of a domain is a tree of server groups, hosts and servers, each of which may be an object,
a property or something that has no names at all. The servers that have a state are the places in
this tree where a header is defined, and the walk through the names of the tree comes to each of
them once: a header is defined only where all names on the way to it are listed, and no node lists a
name twice.

The question whether a reply may hold states is asked before the walk and looks at less. It never
says no where the walk finds something.

Main results:

* `servers_ofReply_domain`, `mem_places_iff`, `pairwise_places` — the states are those of the places
  with a header, in the order of the names.
* `mayBeIn_of_nonempty` — a reply with states passes the question.
* `summary_eq` — the summary is the most severe state that is reported.
* `ofReply_reports` — all of it together.
-/

namespace ManagementModel.ProcessState

/-! ## Places of a domain -/

/-- Where a server stands in a domain. -/
structure Place where
  group : String
  host : String
  server : String
deriving DecidableEq, Repr

/-- The header at a place. -/
def headerAt (reply : Node) (p : Place) : Node :=
  reply.getPath ["server-groups", p.group, "host", p.host, p.server, "response",
    "response-headers", "process-state"]

/-- What the header at a place reports. -/
def stateAt (reply : Node) (p : Place) : ServerState :=
  ⟨p.host, p.server, .ofHeader (headerAt reply p).asString⟩

/-- One name stands in front of another among some names. -/
def InFront (names : List String) (a b : String) : Prop :=
  names.idxOf a < names.idxOf b

/-- The order of the groups decides, then the order of the hosts of a group, and then the order of
the servers of a host. -/
def Before (reply : Node) (p q : Place) : Prop :=
  InFront (reply.getPath ["server-groups"]).names p.group q.group ∨
    p.group = q.group ∧
      (InFront (reply.getPath ["server-groups", p.group, "host"]).names p.host q.host ∨
        p.host = q.host ∧
          InFront (reply.getPath ["server-groups", p.group, "host", p.host]).names p.server
            q.server)

/-- The places that the walk through a reply comes to and finds a header at. -/
def places (reply : Node) : List Place :=
  (reply.getPath ["server-groups"]).names.flatMap fun group =>
    (reply.getPath ["server-groups", group, "host"]).names.flatMap fun host =>
      (reply.getPath ["server-groups", group, "host", host]).names.flatMap fun server =>
        if (headerAt reply ⟨group, host, server⟩).isDefined then [⟨group, host, server⟩] else []

/-- The states are those of the places, one for each. -/
theorem servers_ofReply_domain (reply : Node) :
    (ofReply .domain reply).servers = (places reply).map (stateAt reply) := by
  -- what is reported at a place is one state or none
  have hserver : ∀ group host server,
      ofHeader host server (headerAt reply ⟨group, host, server⟩) =
        (if (headerAt reply ⟨group, host, server⟩).isDefined then [⟨group, host, server⟩]
          else []).map (stateAt reply) := by
    intro group host server
    unfold ofHeader
    split <;> rfl
  unfold places
  simp only [List.map_flatMap, ← hserver]
  rfl

/-- A header is defined only where the walk comes by. -/
theorem mem_places_iff (reply : Node) (p : Place) :
    p ∈ places reply ↔ (headerAt reply p).isDefined = true := by
  obtain ⟨group, host, server⟩ := p
  simp only [places, List.mem_flatMap, List.mem_ite_nil_right, List.mem_singleton]
  constructor
  · rintro ⟨_, _, _, _, _, _, h, ⟨⟩⟩
    exact h
  · intro h
    -- every name on the way to a defined header is listed by the node above it
    have hgroup : group ∈ (reply.getPath ["server-groups"]).names := Node.mem_names_of_getPath h
    have hhost : host ∈ (reply.getPath ["server-groups", group, "host"]).names :=
      Node.mem_names_of_getPath h
    have hserver : server ∈ (reply.getPath ["server-groups", group, "host", host]).names :=
      Node.mem_names_of_getPath h
    exact ⟨group, hgroup, host, hhost, server, hserver, h, rfl⟩

/-! ## The order of the places -/

/-- Distinct names stand in the order in which they are listed. -/
theorem pairwise_inFront {names : List String} (h : names.Nodup) :
    names.Pairwise (InFront names) := by
  rw [List.pairwise_iff_getElem]
  intro i j hi hj hij
  unfold InFront
  rwa [h.idxOf_getElem i hi, h.idxOf_getElem j hj]

/-- The places stand in the order of the names on the way to them. -/
theorem pairwise_places {reply : Node} (h : reply.WellFormed) :
    (places reply).Pairwise (Before reply) := by
  -- no node lists a name twice, so the names at each level are in order
  have hnames : ∀ path, (reply.getPath path).names.Pairwise (InFront (reply.getPath path).names) :=
    fun path => pairwise_inFront (h.getPath path).nodup_names
  -- the parts of one name are in order, and so are the parts of two names, at each of the levels
  unfold places
  refine List.pairwise_flatMap.mpr ⟨fun group _ => ?_, ?_⟩
  · refine List.pairwise_flatMap.mpr ⟨fun host _ => ?_, ?_⟩
    · refine List.pairwise_flatMap.mpr ⟨fun server _ => ?_, ?_⟩
      · split
        · exact List.pairwise_singleton _ _
        · exact List.Pairwise.nil
      · refine (hnames _).imp fun hservers p hp q hq => ?_
        simp only [List.mem_ite_nil_right, List.mem_singleton] at hp hq
        obtain ⟨-, rfl⟩ := hp
        obtain ⟨-, rfl⟩ := hq
        exact .inr ⟨rfl, .inr ⟨rfl, hservers⟩⟩
    · refine (hnames _).imp fun hhosts p hp q hq => ?_
      simp only [List.mem_flatMap, List.mem_ite_nil_right, List.mem_singleton] at hp hq
      obtain ⟨_, -, -, rfl⟩ := hp
      obtain ⟨_, -, -, rfl⟩ := hq
      exact .inr ⟨rfl, .inl hhosts⟩
  · refine (hnames _).imp fun hgroups p hp q hq => ?_
    simp only [List.mem_flatMap, List.mem_ite_nil_right, List.mem_singleton] at hp hq
    obtain ⟨_, -, _, -, -, rfl⟩ := hp
    obtain ⟨_, -, _, -, -, rfl⟩ := hq
    exact .inl hgroups

/-- No place stands before itself. -/
theorem not_before_self (reply : Node) (p : Place) : ¬ Before reply p p := by
  rintro (h | ⟨-, h | ⟨-, h⟩⟩) <;> exact absurd h (Nat.lt_irrefl _)

theorem nodup_places {reply : Node} (h : reply.WellFormed) : (places reply).Nodup := by
  refine (pairwise_places h).imp ?_
  rintro p _ hbefore rfl
  exact not_before_self reply p hbefore

/-! ## Whether a reply may hold states -/

/-- Without a domain the question is whether the header is there. -/
theorem mayBeIn_standalone_eq (reply : Node) :
    mayBeIn .standalone reply = (reply.getPath [headersField, stateField]).isDefined := by
  unfold mayBeIn
  rw [Node.hasDefined_eq, Node.hasDefined_eq]
  cases h : (reply.get headersField).isDefined with
  | true => exact Bool.true_and _
  | false =>
    -- without headers there is no header with the state
    rw [Bool.false_and]
    symm
    rw [← Bool.not_eq_true] at h ⊢
    exact fun hstate => h (Node.isDefined_of_getPath [stateField] hstate)

theorem mayBeIn_domain_eq (reply : Node) :
    mayBeIn .domain reply = (reply.getPath ["server-groups"]).isDefined :=
  Node.hasDefined_eq reply groupsField

/-- Without a domain there is one state, that of the header. -/
theorem servers_ofReply_standalone (reply : Node) :
    (ofReply .standalone reply).servers =
      if mayBeIn .standalone reply = true then
        [⟨"", "", .ofHeader (reply.getPath [headersField, stateField]).asString⟩]
      else [] := by
  rw [mayBeIn_standalone_eq]
  rfl

/-- Without a domain the question is answered by whether there is a state. -/
theorem mayBeIn_standalone_iff (reply : Node) :
    mayBeIn .standalone reply = true ↔
      ∃ state, (ofReply .standalone reply).servers = [⟨"", "", state⟩] := by
  rw [servers_ofReply_standalone]
  split <;> simp [*]

/-- A reply that reports a state is not passed over. -/
theorem mayBeIn_of_nonempty {topology : Topology} {reply : Node}
    (h : (ofReply topology reply).isEmpty = false) : mayBeIn topology reply = true := by
  cases topology with
  | standalone =>
    -- without the header there are no states
    by_contra hno
    rw [isEmpty, servers_ofReply_standalone, if_neg hno] at h
    cases h
  | domain =>
    rw [isEmpty, servers_ofReply_domain, List.isEmpty_eq_false_iff, ne_eq, List.map_eq_nil_iff] at h
    obtain ⟨p, hp⟩ := List.exists_mem_of_ne_nil _ h
    -- the header of the first place is below the groups
    rw [mayBeIn_domain_eq]
    exact Node.isDefined_of_getPath [p.group, "host", p.host, p.server, "response",
      "response-headers", "process-state"] ((mem_places_iff reply p).mp hp)

/-! ## The summary -/

@[simp]
theorem severity_worse (a b : RunState) : (a.worse b).severity = max a.severity b.severity := by
  cases a <;> cases b <;> rfl

theorem worse_eq_or (a b : RunState) : a.worse b = a ∨ a.worse b = b := by
  unfold RunState.worse
  split
  · exact .inr rfl
  · exact .inl rfl

@[simp] theorem summary_concat (servers : List ServerState) (s : ServerState) :
    summary ⟨servers ++ [s]⟩ = (summary ⟨servers⟩).worse s.state := by
  unfold summary
  rw [List.foldl_append]
  rfl

/-- Some server has the state of the summary, unless that is the state without servers. -/
theorem summary_eq_running_or (p : ProcessState) :
    p.summary = .running ∨ ∃ s ∈ p.servers, s.state = p.summary := by
  obtain ⟨servers⟩ := p
  -- the last server is the last one that the summary takes in
  induction servers using List.reverseRecOn with
  | nil => exact .inl rfl
  | append_singleton rest last ih =>
    rw [summary_concat]
    rcases worse_eq_or (summary ⟨rest⟩) last.state with h | h
    · -- the last server is not the worst one
      rw [h]
      refine ih.imp_right ?_
      rintro ⟨s, hs, hstate⟩
      exact ⟨s, List.mem_append_left _ hs, hstate⟩
    · -- the last server is the worst one
      rw [h]
      exact .inr ⟨last, List.mem_append_right _ (List.mem_singleton.mpr rfl), rfl⟩

/-- No server is worse than the summary. -/
theorem severity_le_summary (p : ProcessState) :
    ∀ s ∈ p.servers, s.state.severity ≤ p.summary.severity := by
  obtain ⟨servers⟩ := p
  -- the summary only grows with the servers that it takes in
  induction servers using List.reverseRecOn with
  | nil => exact fun _ h => nomatch h
  | append_singleton rest last ih =>
    intro s hs
    rw [summary_concat, severity_worse]
    rcases List.mem_append.mp hs with hs | hs
    · exact Nat.le_trans (ih s hs) (Nat.le_max_left _ _)
    · rw [List.mem_singleton.mp hs]
      exact Nat.le_max_right _ _

/-- A state that is more severe than the summary is the state of no server. -/
theorem not_reported_of_lt {p : ProcessState} {state : RunState}
    (h : p.summary.severity < state.severity) : ¬ ∃ s ∈ p.servers, s.state = state := by
  rintro ⟨s, hs, rfl⟩
  exact absurd (severity_le_summary p s hs) (Nat.not_le_of_lt h)

/-- The summary is the most severe state that some server has. -/
theorem summary_eq (p : ProcessState) :
    p.summary =
      if ∃ s ∈ p.servers, s.state = .restartRequired then .restartRequired
      else if ∃ s ∈ p.servers, s.state = .reloadRequired then .reloadRequired
      else if ∃ s ∈ p.servers, s.state = .unknown then .unknown
      else .running := by
  have hreported := summary_eq_running_or p
  have hworse : ∀ {state : RunState}, p.summary.severity < state.severity →
      ¬ ∃ s ∈ p.servers, s.state = state := not_reported_of_lt
  -- states that are worse than the summary are not reported, and the summary itself is
  cases h : p.summary with
  | restartRequired =>
    rw [h] at hreported
    rw [if_pos (hreported.resolve_left nofun)]
  | reloadRequired =>
    rw [h] at hreported hworse
    rw [if_neg (hworse (by decide)), if_pos (hreported.resolve_left nofun)]
  | unknown =>
    rw [h] at hreported hworse
    rw [if_neg (hworse (by decide)), if_neg (hworse (by decide)),
      if_pos (hreported.resolve_left nofun)]
  | running =>
    rw [h] at hworse
    rw [if_neg (hworse (by decide)), if_neg (hworse (by decide)), if_neg (hworse (by decide))]

/-- The order of the servers does not matter for the summary. -/
theorem summary_perm {p q : ProcessState} (h : p.servers.Perm q.servers) :
    p.summary = q.summary := by
  simp only [summary_eq, h.mem_iff]

/-! ## Replies -/

/-- What a reply reports, and what its states come to.

In a domain there is one state for each place with a header, in the order of the names on the way,
and it has the names of the host and the server and the state that the header says. A reply with
states is never passed over, and the reply of a single server is looked at exactly if it has a
state. The summary is the most severe state that some server has, in whatever order they come. -/
theorem ofReply_reports :
    (∀ reply : Node, reply.WellFormed → ∃ places : List Place,
      (ofReply .domain reply).servers = places.map (stateAt reply) ∧
      (∀ p, p ∈ places ↔ (headerAt reply p).isDefined = true) ∧
      places.Nodup ∧ places.Pairwise (Before reply)) ∧
    (∀ topology reply, (ofReply topology reply).isEmpty = false →
      mayBeIn topology reply = true) ∧
    (∀ reply, mayBeIn .standalone reply = true ↔
      ∃ state, (ofReply .standalone reply).servers = [⟨"", "", state⟩]) ∧
    ∀ p : ProcessState,
      (p.summary =
        if ∃ s ∈ p.servers, s.state = .restartRequired then .restartRequired
        else if ∃ s ∈ p.servers, s.state = .reloadRequired then .reloadRequired
        else if ∃ s ∈ p.servers, s.state = .unknown then .unknown
        else .running) ∧
      ∀ q : ProcessState, p.servers.Perm q.servers → p.summary = q.summary := by
  refine ⟨?_, fun _ _ => mayBeIn_of_nonempty, mayBeIn_standalone_iff, ?_⟩
  · intro reply h
    exact ⟨places reply, servers_ofReply_domain reply, mem_places_iff reply, nodup_places h,
      pairwise_places h⟩
  · intro p
    exact ⟨summary_eq p, fun q hperm => summary_perm hperm⟩

/-- Two groups have a server of the same names. One of them is spelled by properties, one server has
no header, and the state of the second group is the worse one. -/
theorem ofReply_reports_two_groups :
    let answer (header : Node) : Node :=
      .object [("response", .object [("response-headers", .object [("process-state", header)])])]
    let reply : Node := .object [("outcome", .string "success"), ("server-groups", .object [
      ("main", .property "host" (.property "primary" (.property "one" (answer (.string " OK "))))),
      ("other", .object [("host", .object [("primary", .object [("two", answer .undefined),
        ("one", answer (.string "reload-required"))])])])])]
    reply.WellFormed ∧
      (∃ places : List Place, places.Nodup ∧
        (⟨"main", "primary", "one"⟩ : Place) ∈ places ∧
        (⟨"other", "primary", "two"⟩ : Place) ∉ places ∧
        [⟨"primary", "one", .running⟩, ⟨"primary", "one", .reloadRequired⟩] =
          places.map (stateAt reply)) ∧
      mayBeIn .domain reply = true ∧ (ofReply .domain reply).summary = .reloadRequired := by
  intro answer reply
  have hw : reply.WellFormed := by
    simp [reply, answer, Node.WellFormed, Node.WellFormedFields, Fields.Distinct, Fields.names]
  have hservers : (ofReply .domain reply).servers =
      [⟨"primary", "one", .running⟩, ⟨"primary", "one", .reloadRequired⟩] := by decide
  obtain ⟨hdomain, hasked, -, hsummary⟩ := ofReply_reports
  obtain ⟨places, hplaces, hmem, hnodup, -⟩ := hdomain reply hw
  refine ⟨hw, ⟨places, hnodup, (hmem _).mpr rfl, ?_, hservers.symm.trans hplaces⟩, ?_, ?_⟩
  · intro h
    cases (hmem _).mp h
  · exact hasked .domain reply (by rw [isEmpty, hservers]; rfl)
  · exact (hsummary _).1.trans (by rw [hservers]; decide)

end ManagementModel.ProcessState
