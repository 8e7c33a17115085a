import ServiceMesh.Balancer.Basic
import ServiceMesh.Proofs.Balancer.Selector

/-!
# What the load balancer does

Looking at breakers one after the other may change them, and a breaker that was looked at
is seen alike by the next look at the same moment. So the fit members of a name are those
that are fit by what the breakers show before the first look. Among them the selector of
the name chooses, and that selector always suits the configuration in force.
-/

namespace ServiceMesh

/-! ## Breakers as they are seen -/

theorem Breaker.refresh_refresh (b : Breaker) (now : Moment) :
    (b.refresh now).refresh now = b.refresh now := by
  by_cases h : b.state = .open ∧ b.hasWaited now
  · have halfOpen : (b.refresh now).state ≠ .open := by
      rw [refresh, if_pos h]
      intro isOpen
      cases isOpen
    exact refresh_of_ne_open halfOpen now
  · have same : b.refresh now = b := if_neg h
    rw [same, same]

namespace Bank

/-- The breaker of an id as it is seen at a moment. -/
def view (b : Bank) (now : Moment) (id : String) : Option Breaker :=
  (b.find? id).map fun x => x.refresh now

theorem find?_refresh_self (b : Bank) (id : String) (now : Moment) :
    (b.refresh id now).find? id = b.view now id := by
  unfold refresh view
  split
  case h_1 absent => rw [absent, Option.map_none]
  case h_2 x found =>
    rw [found, Option.map_some]
    exact Table.getElem?_insert_self _ _ _

theorem find?_refresh_ne (b : Bank) {id other : String} (h : id ≠ other) (now : Moment) :
    (b.refresh id now).find? other = b.find? other := by
  unfold refresh
  split
  · rfl
  · exact Table.getElem?_insert_ne _ h _

/-- A look changes nothing for those who look at the same moment. -/
theorem view_refresh (b : Bank) (id : String) (now : Moment) :
    (b.refresh id now).view now = b.view now := by
  funext other
  by_cases h : id = other
  · subst h
    rw [view, find?_refresh_self, view, Option.map_map]
    congr 1
    funext x
    exact x.refresh_refresh now
  · rw [view, find?_refresh_ne b h, view]

theorem isOpen_eq (b : Bank) (id : String) (now : Moment) :
    b.isOpen id now = (((b.view now id).map Breaker.isOpen).getD false, b.refresh id now) := by
  rw [isOpen, find?_refresh_self]

end Bank

namespace Balancer

/-! ## Fit members -/

/-- An instance is fit when its status is healthy or degraded and, if breakers are in use,
the breaker seen for it is not open. -/
def Fit (useBreakers : Bool) (view : String → Option Breaker) (r : Record) : Prop :=
  (r.status = .healthy ∨ r.status = .degraded) ∧
  (useBreakers = true → ∀ x, view r.id = some x → x.state ≠ .open)

/-- Whether an instance is fit, as it is computed. -/
def isFit (useBreakers : Bool) (view : String → Option Breaker) (r : Record) : Bool :=
  r.status.selectable && !(useBreakers && ((view r.id).map Breaker.isOpen).getD false)

theorem isFit_iff_fit {useBreakers : Bool} {view : String → Option Breaker} {r : Record} :
    isFit useBreakers view r = true ↔ Fit useBreakers view r := by
  rw [isFit, Fit, Bool.and_eq_true, Status.selectable_iff]
  cases useBreakers with
  | false => simp
  | true => cases view r.id <;> simp [Breaker.isOpen]

instance (useBreakers : Bool) (view : String → Option Breaker) (r : Record) :
    Decidable (Fit useBreakers view r) :=
  decidable_of_iff (isFit useBreakers view r = true) isFit_iff_fit

theorem fit_eq (useBreakers : Bool) (now : Moment) (members : List Record) (bank : Bank) :
    (fit useBreakers now members bank).1 =
      members.filter fun r => Fit useBreakers (bank.view now) r := by
  have computed : (fit useBreakers now members bank).1 =
      members.filter (isFit useBreakers (bank.view now)) := by
    induction members generalizing bank with
    | nil => rfl
    | cons r rest ih =>
      rw [fit]
      cases hstatus : r.status.selectable with
      | false => simp [isFit, hstatus, ih]
      | true =>
        cases useBreakers with
        | false => simp [isFit, hstatus, ih]
        | true =>
          simp only [if_true, Bank.isOpen_eq, ih, Bank.view_refresh]
          cases hopen : ((bank.view now r.id).map Breaker.isOpen).getD false with
          | true => simp [isFit, hopen]
          | false => simp [isFit, hstatus, hopen]
  rw [computed]
  apply List.filter_congr
  intro r _
  rw [Bool.eq_iff_iff, isFit_iff_fit, decide_eq_true_iff]

/-! ## Choosing -/

/-- The candidates as they are offered to a selector. -/
def offered (b : Balancer) (candidates : List Record) : List Candidate :=
  candidates.map fun r => { record := r, load := b.load r.id }

/-- What the selector of a name answers, and the selector afterwards. -/
def consult (b : Balancer) (name : String) (candidates : List Record) (request : Request)
    (draw : UInt64) : Option Nat × Selector :=
  (b.group name).selector.choose (b.offered candidates) request draw

variable {b : Balancer} {name : String} {candidates : List Record} {request : Request}
  {draw : UInt64}

theorem choose_of_none
    (h : (b.consult name candidates request draw).1.bind (candidates[·]?) = none) :
    b.choose name candidates request draw =
      (.error (.internal ("selector returned no instance for '" ++ name ++ "'")),
        { b with groups := b.groups.insert name
                  { b.group name with
                    selector := (b.consult name candidates request draw).2 } }) := by
  unfold choose
  unfold consult offered at h
  simp only [h]
  rfl

theorem choose_of_some {r : Record}
    (h : (b.consult name candidates request draw).1.bind (candidates[·]?) = some r) :
    b.choose name candidates request draw =
      (.ok r,
        { b with
          groups := b.groups.insert name
            { b.group name with
              selector := (b.consult name candidates request draw).2
              statistics := some <|
                ((b.group name).statistics.getD
                  { serviceName := name, algorithm := b.config.algorithm }).addSelection r.id
                  b.config.algorithm }
          loads := b.loads.update r.id Load.start
          selections := b.selections.add (name, b.config.algorithm) }) := by
  unfold choose
  unfold consult offered at h
  simp only [h]
  rfl

/-- The statistics of a name, if it has been selected from. -/
def statistics? (b : Balancer) (name : String) : Option Statistics :=
  (b.groups[name]?).bind Group.statistics

/-- The statistics of a name are those of its group, whatever configuration it follows. -/
theorem statistics_group (b : Balancer) (name : String) :
    (b.group name).statistics = b.statistics? name := by
  unfold group statistics?
  split
  case h_1 absent => rw [absent, Option.bind_none]
  case h_2 g found =>
    rw [found, Option.bind_some]
    split <;> rfl

/-! ## Groups and configurations -/

/-- The groups of a balancer follow the configurations that it was given. None is ahead of
it, one that is not behind it has its configuration, and each selector suits the
configuration of its group. -/
structure Coherent (b : Balancer) : Prop where
  notAhead : ∀ (name : String) g, b.groups[name]? = some g → g.revision ≤ b.revision
  current : ∀ (name : String) g, b.groups[name]? = some g → g.revision = b.revision →
    g.config = b.config
  suits : ∀ (name : String) g, b.groups[name]? = some g → g.selector.Suits g.config

namespace Coherent

theorem ofConfig (config : BalancerConfig) : (Balancer.ofConfig config).Coherent where
  notAhead _ _ found := nomatch found
  current _ _ found := nomatch found
  suits _ _ found := nomatch found

/-- The group that a selection works with is up to the configuration in force. -/
theorem group (h : b.Coherent) (name : String) :
    (b.group name).revision = b.revision ∧ (b.group name).config = b.config ∧
      (b.group name).selector.Suits b.config := by
  unfold Balancer.group
  split
  case h_1 => exact ⟨rfl, rfl, Selector.suits_ofConfig b.config⟩
  case h_2 g found =>
    have suits := h.suits name g found
    split
    case isTrue same =>
      have config := h.current name g found same
      exact ⟨same, config, config ▸ suits⟩
    case isFalse =>
      refine ⟨rfl, rfl, ?_⟩
      simp only
      split
      case isTrue => exact Selector.suits_ofConfig b.config
      case isFalse current => exact suits.of_current (by simpa using current)

/-- Another configuration leaves every group behind. -/
theorem renew (h : b.Coherent) (config : BalancerConfig) :
    ({ b with config, revision := b.revision + 1 } : Balancer).Coherent := by
  refine ⟨?_, ?_, h.suits⟩
  · intro name g found
    exact Nat.le_succ_of_le (h.notAhead name g found)
  · intro name g found same
    exact absurd (h.notAhead name g found) (by rw [same]; exact Nat.not_succ_le_self _)

/-- Writing a group that is up to the configuration in force. -/
theorem insert (h : b.Coherent) {name : String} {g : Group} {next : Balancer}
    (groups : next.groups = b.groups.insert name g) (same : next.revision = b.revision)
    (sameConfig : next.config = b.config) (revision : g.revision = b.revision)
    (config : g.config = b.config) (suits : g.selector.Suits b.config) : next.Coherent := by
  have split : ∀ (other : String) found, next.groups[other]? = some found →
      found = g ∨ b.groups[other]? = some found := by
    intro other found hfound
    rw [groups] at hfound
    rcases Table.insert_cases hfound with ⟨-, new⟩ | ⟨-, old⟩
    · exact .inl new.symm
    · exact .inr old
  constructor
  · intro other found hfound
    rw [same]
    rcases split other found hfound with rfl | old
    · exact Nat.le_of_eq revision
    · exact h.notAhead other found old
  · intro other found hfound
    rw [same, sameConfig]
    rcases split other found hfound with rfl | old
    · exact fun _ => config
    · exact h.current other found old
  · intro other found hfound
    rcases split other found hfound with rfl | old
    · exact config ▸ suits
    · exact h.suits other found old

theorem choose (h : b.Coherent) (name : String) (candidates : List Record) (request : Request)
    (draw : UInt64) : (b.choose name candidates request draw).2.Coherent := by
  obtain ⟨revision, config, suits⟩ := h.group name
  have next := suits.choose (b.offered candidates) request draw
  cases chosen : (b.consult name candidates request draw).1.bind (candidates[·]?) with
  | none =>
    rw [choose_of_none chosen]
    exact h.insert rfl rfl rfl revision config next
  | some r =>
    rw [choose_of_some chosen]
    exact h.insert rfl rfl rfl revision config next

/-- What leaves the groups and the configuration alone. -/
theorem keep (h : b.Coherent) {next : Balancer} (groups : next.groups = b.groups)
    (same : next.revision = b.revision) (sameConfig : next.config = b.config) :
    next.Coherent := by
  obtain ⟨notAhead, current, suits⟩ := h
  rw [← groups, ← same] at notAhead
  rw [← groups, ← same, ← sameConfig] at current
  rw [← groups] at suits
  exact ⟨notAhead, current, suits⟩

theorem track (h : b.Coherent) (id : String) : (b.track id).Coherent := by
  unfold Balancer.track
  split
  · exact h
  · exact h.keep rfl rfl rfl

/-- New statistics of a group change nothing else of it. -/
theorem setStatistics (h : b.Coherent) (name : String) (f : Group → Option Statistics) :
    ({ b with groups := b.groups.update name fun g => { g with statistics := f g } } :
      Balancer).Coherent := by
  have found : ∀ (other : String) g, (b.groups.update name fun g =>
      { g with statistics := f g })[other]? = some g → ∃ old, b.groups[other]? = some old ∧
        g.revision = old.revision ∧ g.config = old.config ∧ g.selector = old.selector := by
    intro other g hg
    rcases Table.update_cases hg with ⟨-, old, hold, rfl⟩ | ⟨-, kept⟩
    · exact ⟨old, hold, rfl, rfl, rfl⟩
    · exact ⟨g, kept, rfl, rfl, rfl⟩
  constructor
  · intro other g hg
    obtain ⟨old, hold, revision, -, -⟩ := found other g hg
    exact revision ▸ h.notAhead other old hold
  · intro other g hg same
    obtain ⟨old, hold, revision, config, -⟩ := found other g hg
    exact config.trans (h.current other old hold (revision ▸ same))
  · intro other g hg
    obtain ⟨old, hold, -, config, selector⟩ := found other g hg
    rw [config, selector]
    exact h.suits other old hold

end Coherent

/-- What a name is answered when it has candidates. Consistent hashing finds no instance
exactly when the ring of all members has no point of a candidate. -/
theorem choose_answer (h : b.Coherent) (nonempty : candidates ≠ [])
    (members : request.members ≠ []) :
    (b.config.algorithm = .consistentHash ∧
      (∀ r ∈ candidates,
        ∀ p ∈ (Ring.build request.members b.config.hashReplicas).points, p.2 ≠ r.id) ∧
      ∃ reason, (b.choose name candidates request draw).1 = .error (.internal reason)) ∨
    (¬(b.config.algorithm = .consistentHash ∧
      ∀ r ∈ candidates,
        ∀ p ∈ (Ring.build request.members b.config.hashReplicas).points, p.2 ≠ r.id) ∧
      ∃ r ∈ candidates, (b.choose name candidates request draw).1 = .ok r) := by
  obtain ⟨-, -, suits⟩ := h.group name
  have someOffered : b.offered candidates ≠ [] := by simpa [offered] using nonempty
  have chosen : ∀ i < (b.offered candidates).length,
      (b.consult name candidates request draw).1 = some i →
      ∃ r ∈ candidates, (b.choose name candidates request draw).1 = .ok r := by
    intro i hi consulted
    have inside : i < candidates.length := by simpa [offered] using hi
    have hit : (b.consult name candidates request draw).1.bind (candidates[·]?) =
        some candidates[i] := by
      rw [consulted, Option.bind_some, List.getElem?_eq_getElem inside]
    exact ⟨candidates[i], List.getElem_mem inside, by rw [choose_of_some hit]⟩
  by_cases hashing : b.config.algorithm = .consistentHash
  · obtain ⟨key, consulted⟩ := suits.choose_on_ring hashing someOffered members draw
    cases walked : Selector.firstOnRing? (Ring.build request.members b.config.hashReplicas) key
        (b.offered candidates) with
    | none =>
      refine .inl ⟨hashing, ?_, ?_⟩
      · intro r hr p hp
        exact Selector.firstOnRing?_eq_none_iff.mp walked ⟨r, b.load r.id⟩
          (List.mem_map.mpr ⟨r, hr, rfl⟩) p hp
      · have missed : (b.consult name candidates request draw).1.bind (candidates[·]?) = none := by
          rw [consult, consulted, walked, Option.bind_none]
        exact ⟨_, by rw [choose_of_none missed]⟩
    | some i =>
      refine .inr ⟨?_, chosen i (Selector.firstOnRing?_lt walked) (consulted.trans walked)⟩
      rintro ⟨-, unowned⟩
      have missed : Selector.firstOnRing? (Ring.build request.members b.config.hashReplicas) key
          (b.offered candidates) = none := by
        rw [Selector.firstOnRing?_eq_none_iff]
        intro c hc p hp
        obtain ⟨r, hr, rfl⟩ := List.mem_map.mp hc
        exact unowned r hr p hp
      exact nomatch walked.symm.trans missed
  · have ringless : (b.group name).selector.algorithm ≠ .consistentHash := by
      rwa [suits.algorithm]
    obtain ⟨i, hi, consulted⟩ := Selector.choose_in_range ringless someOffered request draw
    exact .inr ⟨fun wrong => hashing wrong.1, chosen i hi consulted⟩

/-! ## Selecting -/

section Select

variable {store : Store} {bank : Bank} {now : Moment} {client : Option String}

/-- What a selector is told besides the candidates. -/
def requestFor (client : Option String) (members : List Record) : Request :=
  { client := client.filter (· ≠ ""), members := members.map Record.id }

theorem select_of_blank (blank : Text.isBlank name = true) :
    b.select store bank now name client draw = (.error (.blank "service_name"), b, bank) := by
  rw [select, Store.list, Failure.requireText_of_blank _ blank]
  rfl

theorem select_of_no_members (written : Text.isBlank name = false)
    (empty : store.members name = []) :
    b.select store bank now name client draw =
      (.error (.unknownName name), b.fail .serviceNotFound, bank) := by
  rw [select, Store.list, Failure.requireText_of_written _ written, empty]
  rfl

theorem select_of_none_fit (written : Text.isBlank name = false)
    (nonempty : store.members name ≠ [])
    (unfit : (fit b.config.breakerEnabled now (store.members name) bank).1 = []) :
    b.select store bank now name client draw =
      (.error (.noneHealthy name), b.fail .noHealthyInstances,
        (fit b.config.breakerEnabled now (store.members name) bank).2) := by
  obtain ⟨r, rest, members⟩ := List.exists_cons_of_ne_nil nonempty
  rw [select, Store.list, Failure.requireText_of_written _ written]
  rw [members] at unfit ⊢
  cases looked : fit b.config.breakerEnabled now (r :: rest) bank with
  | mk candidates seen =>
    rw [looked] at unfit
    cases unfit
    simp only [bind, Except.bind, looked]

theorem select_of_fit (written : Text.isBlank name = false)
    (nonempty : (fit b.config.breakerEnabled now (store.members name) bank).1 ≠ []) :
    b.select store bank now name client draw =
      ((b.choose name (fit b.config.breakerEnabled now (store.members name) bank).1
          (requestFor client (store.members name)) draw).1,
        (b.choose name (fit b.config.breakerEnabled now (store.members name) bank).1
          (requestFor client (store.members name)) draw).2,
        (fit b.config.breakerEnabled now (store.members name) bank).2) := by
  rw [select, Store.list, Failure.requireText_of_written _ written]
  cases members : store.members name with
  | nil =>
    rw [members] at nonempty
    exact absurd rfl nonempty
  | cons r rest =>
    rw [members] at nonempty
    cases looked : fit b.config.breakerEnabled now (r :: rest) bank with
    | mk candidates seen =>
      rw [looked] at nonempty
      cases candidates with
      | nil => exact absurd rfl nonempty
      | cons first others =>
        simp only [bind, Except.bind, looked]
        rfl

/-- What a selection leaves behind: the failed one is counted, or the choice is. The
breakers are as they were, or were looked at. -/
theorem select_leaves (b : Balancer) (store : Store) (bank : Bank) (now : Moment) (name : String)
    (client : Option String) (draw : UInt64) :
    ((∃ e, (b.select store bank now name client draw).1 = .error e ∧
        (b.select store bank now name client draw).2.1 = b) ∨
      (∃ e reason, (b.select store bank now name client draw).1 = .error e ∧
        (b.select store bank now name client draw).2.1 = b.fail reason) ∨
      ∃ candidates request, (b.select store bank now name client draw).1 =
          (b.choose name candidates request draw).1 ∧
        (b.select store bank now name client draw).2.1 =
          (b.choose name candidates request draw).2) ∧
    ((b.select store bank now name client draw).2.2 = bank ∨
      ∃ members, (b.select store bank now name client draw).2.2 =
        (fit b.config.breakerEnabled now members bank).2) := by
  cases written : Text.isBlank name with
  | true =>
    rw [select_of_blank written]
    exact ⟨.inl ⟨_, rfl, rfl⟩, .inl rfl⟩
  | false =>
    by_cases empty : store.members name = []
    · rw [select_of_no_members written empty]
      exact ⟨.inr (.inl ⟨_, _, rfl, rfl⟩), .inl rfl⟩
    · by_cases unfit : (fit b.config.breakerEnabled now (store.members name) bank).1 = []
      · rw [select_of_none_fit written empty unfit]
        exact ⟨.inr (.inl ⟨_, _, rfl, rfl⟩), .inr ⟨_, rfl⟩⟩
      · rw [select_of_fit written unfit]
        exact ⟨.inr (.inr ⟨_, _, rfl, rfl⟩), .inr ⟨_, rfl⟩⟩

theorem Coherent.select (h : b.Coherent) (store : Store) (bank : Bank) (now : Moment)
    (name : String) (client : Option String) (draw : UInt64) :
    (b.select store bank now name client draw).2.1.Coherent := by
  rcases (b.select_leaves store bank now name client draw).1 with
    ⟨-, -, same⟩ | ⟨-, reason, -, failed⟩ | ⟨candidates, request, -, chosen⟩
  · rw [same]
    exact h
  · rw [failed]
    exact h.keep rfl rfl rfl
  · rw [chosen]
    exact h.choose name candidates request draw

end Select

/-! ## Reporting -/

/-- The balancer after a report that was taken in. -/
def reported (b : Balancer) (name id : String) (time : Duration) (success : Bool) : Balancer :=
  { b with
    loads := b.loads.update id fun l =>
      l.finish success time b.config.responseTimeAlpha b.config.successWindow.toNat
    groups := b.groups.update name fun g =>
      { g with
        statistics := g.statistics.map fun s =>
          s.addReport success time b.config.responseTimeAlpha }
    responseTimes := time.toMilliseconds :: b.responseTimes }

/-- A report is refused before anything has changed, or it is taken in everywhere. -/
theorem report_eq (b : Balancer) (store : Store) (bank : Bank) (now : Moment) (id : String)
    (time : Duration) (success : Bool) :
    (∃ e, b.report store bank now id time success = (.error e, b, store, bank)) ∨
    ∃ r state nextBank, store.get id = .ok r ∧
      bank.report id success time now = .ok (state, nextBank) ∧
      b.report store bank now id time success =
        (.ok (), b.reported r.serviceName id time success,
          store.modify id fun r => { r with lastResponse := some (.reported time) }, nextBank) := by
  unfold report
  cases got : store.get id with
  | error e => exact .inl ⟨e, rfl⟩
  | ok r =>
    have there : store.contains id = true := Option.isSome_of_eq_some (Store.find?_of_get got)
    cases counted : bank.report id success time now with
    | error e => exact .inl ⟨e, rfl⟩
    | ok outcome =>
      have noted : store.setResponse id (.reported time) =
          .ok (store.modify id fun r => { r with lastResponse := some (.reported time) }) := by
        rw [Store.setResponse, if_pos there]
      refine .inr ⟨r, outcome.1, outcome.2, rfl, rfl, ?_⟩
      simp only [noted, reported]

theorem Coherent.reported (h : b.Coherent) (name id : String) (time : Duration) (success : Bool) :
    (b.reported name id time success).Coherent :=
  (h.setStatistics name _).keep rfl rfl rfl

end Balancer

end ServiceMesh
