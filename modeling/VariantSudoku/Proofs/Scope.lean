import VariantSudoku.Proofs.Run

set_option autoImplicit false

namespace VariantSudoku

def ClueValue.namedIn (text : String) : List String :=
  match read text with
  | .ok value => value.symbols
  | .error _ => []

def Puzzle.NamesNoSharedGrid (p : Puzzle) : Prop :=
  ∀ e ∈ p.elements.entries, ∀ text ∈ e.texts, ∀ name ∈ ClueValue.namedIn text,
    SharedGrid.isName name = false

instance (p : Puzzle) : Decidable p.NamesNoSharedGrid :=
  inferInstanceAs (Decidable (∀ e ∈ p.elements.entries, ∀ text ∈ e.texts,
    ∀ name ∈ ClueValue.namedIn text, SharedGrid.isName name = false))

/-- The names after some blocks, while a rule has made the fragment `f`. What waits in the session
comes between the two. Those in `free` may be read before they are declared. -/
structure Scope (free : List String) (out f : Fragment) (s : Session) : Prop where
  distinct : (Fragment.declaredNames (out ++ s.pending ++ f)).Nodup
  names : ∀ name, name ∈ Fragment.declaredNames (out ++ s.pending ++ f) ↔
    name ∈ s.names.declared ∨ name ∈ s.names.requested.map SharedGrid.name
  requested : ∀ name ∈ s.names.requested.map SharedGrid.name,
    name ∈ Fragment.declaredNames (out ++ s.pending)
  unshared : ∀ name ∈ s.names.declared, SharedGrid.isName name = false
  known : ∀ key reference, s.names.known.lookup key = some (some reference) →
    (∃ n, reference = .int n) ∨ ∃ name, (name ∈ s.names.declared ∨ name ∈ free) ∧
      reference = .ref name
  ready : Fragment.Closed free (out ++ s.pending)
  closed : Fragment.Closed (Fragment.declaredNames (out ++ s.pending) ++ free) f

namespace Scope

variable {p : Puzzle} {e : Element} {free : List String} {out f g : Fragment} {s s' : Session}

theorem reads (scope : Scope free out f s) {condition : Expr} (grounded : condition.Grounded p s)
    {name : String} (read : name ∈ condition.reads) :
    name = SharedGrid.digits.name ∨
      name ∈ Fragment.declaredNames (out ++ s.pending ++ f) ++ free := by
  rw [List.mem_append, scope.names, or_assoc]
  obtain ⟨part, member, named⟩ := (Expr.mem_reads name condition).1 read
  have hasGrid (grid : ∃ g, s.Has g ∧ g.name = name) : name = SharedGrid.digits.name ∨
      name ∈ s.names.declared ∨ name ∈ s.names.requested.map SharedGrid.name ∨ name ∈ free := by
    obtain ⟨g, rfl | asked, rfl⟩ := grid
    · exact .inl rfl
    · exact .inr (.inr (.inl (List.mem_map_of_mem asked)))
  rcases grounded.made part member with ⟨key, reference, met, inside⟩ | made
  · obtain ⟨n, rfl⟩ | ⟨owner, owned, rfl⟩ := scope.known key reference met
    · cases List.mem_singleton.1 inside
      cases named
    · cases List.mem_singleton.1 inside
      cases named
      exact .inr (owned.imp_right .inr)
  · cases part with
    | ref base =>
      cases named
      exact hasGrid made
    | index base indices =>
      cases named
      exact hasGrid made.1
    | int | bool | array | range | call | binary | unary | choice => cases named

theorem closed_append (scope : Scope free out f s)
    (closed : Fragment.Closed (Fragment.declaredNames (out ++ s.pending ++ f) ++ free) g) :
    Fragment.Closed (Fragment.declaredNames (out ++ s.pending) ++ free) (f ++ g) := by
  refine (Fragment.closed_append _ _).2
    ⟨scope.closed, (Fragment.Closed.congr fun name => ?_).1 closed⟩
  simp only [Fragment.declaredNames_append _ f, List.mem_append]
  rw [or_left_comm, or_assoc]

theorem constrain (scope : Scope free out f s) {condition : Expr}
    (grounded : condition.Grounded p s) : Scope free out (f ++ [.constrain condition]) s := by
  have same : Fragment.declaredNames (out ++ s.pending ++ (f ++ [.constrain condition])) =
      Fragment.declaredNames (out ++ s.pending ++ f) := by simp
  exact
    { scope with
      distinct := by rw [same]; exact scope.distinct
      names := by rw [same]; exact scope.names
      closed := scope.closed_append ⟨fun name => scope.reads grounded, trivial⟩ }

theorem introduce (scope : Scope free out f s) {value : ClueValue} {default : String} {l : Lowered}
    {after : Variables} (key : String × String) (unshared : SharedGrid.isName default = false)
    (symbols : ∀ name ∈ value.symbols, SharedGrid.isName name = false ∨ name ∈ free)
    (introduced : Variables.Introduced value default s.names l after) :
    Scope free out (f ++ l.statements) { s with names :=
      { after with known := (key, some l.reference) :: s.names.known } } := by
  have shared (name : String) (member : name ∈ Fragment.declaredNames l.statements) :
      SharedGrid.isName name = false := by
    rcases introduced.unshared name member with apart | rfl
    · exact apart
    · exact unshared
  have same : Fragment.declaredNames (out ++ s.pending ++ (f ++ l.statements)) =
      Fragment.declaredNames (out ++ s.pending ++ f) ++ Fragment.declaredNames l.statements := by
    rw [← List.append_assoc, Fragment.declaredNames_append]
  exact
    { distinct := by
        simp only [same]
        refine List.nodup_append.2 ⟨scope.distinct, introduced.distinct, ?_⟩
        rintro name before _ now rfl
        rcases (scope.names name).1 before with declared | asked
        · exact introduced.free name now declared
        · obtain ⟨g, -, rfl⟩ := List.mem_map.1 asked
          have isGrid := (SharedGrid.isName_iff g.name).2 ⟨g, rfl⟩
          rw [shared g.name now] at isGrid
          cases isGrid
      names := by
        intro name
        simp only [same, List.mem_append, scope.names, introduced.declared, introduced.requested]
        exact ⟨by tauto, by tauto⟩
      requested := by simpa only [introduced.requested] using scope.requested
      unshared := by
        intro name declared
        rcases (introduced.declared name).1 declared with now | before
        · exact shared name now
        · exact scope.unshared name before
      known := by
        intro other reference met
        obtain ⟨-, now⟩ | ⟨-, before⟩ := Variables.lookup_cons_cases met
        · cases now
          rcases introduced.reference with number | ⟨name, eq, -, declared | ⟨symbol, isGrid⟩⟩
          · exact .inl number
          · exact .inr ⟨name, .inl declared, eq⟩
          · refine .inr ⟨name, .inr ((symbols name symbol).resolve_left ?_), eq⟩
            simp [isGrid]
        · obtain number | ⟨name, declared | among, eq⟩ := scope.known other reference before
          · exact .inl number
          · exact .inr ⟨name, .inl ((introduced.declared name).2 (.inr declared)), eq⟩
          · exact .inr ⟨name, .inr among, eq⟩
      ready := scope.ready
      closed := by
        refine scope.closed_append (introduced.closed.mono fun name declared => ?_)
        exact List.mem_append_left _ ((scope.names name).2 (.inl declared)) }

theorem reject (scope : Scope free out f s) (key : String × String) (counter : Nat) :
    Scope free out f
      { s with names := { s.names with known := (key, none) :: s.names.known, counter } } :=
  { scope with
    known := by
      intro other reference met
      obtain ⟨-, ⟨⟩⟩ | ⟨-, before⟩ := Variables.lookup_cons_cases met
      exact scope.known other reference before }

theorem request (scope : Scope free out f s) {grids : List SharedGrid} {block : Fragment}
    (requests : Requests p s s' grids block) : Scope free out f s' := by
  have names : s'.names = { s.names with requested := s'.names.requested } := requests.agrees
  have declares : Fragment.declaredNames (out ++ s'.pending) =
      Fragment.declaredNames (out ++ s.pending) ++ grids.map SharedGrid.name := by
    rw [requests.pending, ← List.append_assoc, Fragment.declaredNames_append, requests.declared]
  have mem (name : String) : name ∈ Fragment.declaredNames (out ++ s'.pending ++ f) ↔
      name ∈ grids.map SharedGrid.name ∨ name ∈ Fragment.declaredNames (out ++ s.pending ++ f) := by
    rw [Fragment.declaredNames_append, Fragment.declaredNames_append _ f, declares]
    simp only [List.mem_append]
    tauto
  have asked (name : String) : name ∈ s'.names.requested.map SharedGrid.name ↔
      name ∈ grids.map SharedGrid.name ∨ name ∈ s.names.requested.map SharedGrid.name := by
    simp only [List.mem_map, requests.requested, or_and_right, exists_or]
  -- Clues do not declare the names of grids, and each grid is asked for once.
  have fresh : ∀ name ∈ grids.map SharedGrid.name,
      name ∉ Fragment.declaredNames (out ++ s.pending ++ f) := by
    intro name member declared
    obtain ⟨g, among, rfl⟩ := List.mem_map.1 member
    rcases (scope.names g.name).1 declared with clue | before
    · have isGrid := (SharedGrid.isName_iff g.name).2 ⟨g, rfl⟩
      rw [scope.unshared g.name clue] at isGrid
      cases isGrid
    · obtain ⟨other, earlier, same⟩ := List.mem_map.1 before
      exact requests.fresh g among (SharedGrid.name_injective same ▸ earlier)
  exact
    { distinct := by
        rw [Fragment.declaredNames_append, declares, List.append_assoc]
        refine (List.perm_append_comm.append_left _).nodup_iff.2 ?_
        rw [← List.append_assoc, ← Fragment.declaredNames_append]
        refine List.nodup_append.2 ⟨scope.distinct, ?_, ?_⟩
        · exact requests.distinct.map fun _ _ => SharedGrid.name_injective
        · rintro name before _ now rfl
          exact fresh name now before
      names := by
        intro name
        rw [mem, asked, scope.names, names]
        tauto
      requested := by
        intro name member
        rw [declares, List.mem_append, or_comm]
        exact ((asked name).1 member).imp_right (scope.requested name)
      unshared := by
        rw [names]
        exact scope.unshared
      known := by
        rw [names]
        exact scope.known
      ready := by
        rw [requests.pending, ← List.append_assoc]
        refine (Fragment.closed_append _ _).2 ⟨scope.ready, ?_⟩
        refine requests.closed.mono fun name member => ?_
        exact List.mem_append_left _ (scope.requested name member)
      closed := by
        apply scope.closed.mono
        intro name member
        rw [declares]
        simp only [List.mem_append] at member ⊢
        exact member.imp_left .inl }

theorem step (scope : Scope free out f s) (step : Step p e s g s')
    (apart : ∀ text ∈ e.texts, ∀ name ∈ ClueValue.namedIn text,
      SharedGrid.isName name = false ∨ name ∈ free) : Scope free out (f ++ g) s' := by
  cases step with
  | constrain grounded => exact scope.constrain grounded
  | request requests =>
    rw [List.append_nil]
    exact scope.request requests
  | skip clue reason =>
    rw [List.append_nil]
    exact { scope with }
  | resolve among scalar resolution =>
    cases resolution with
    | remembered met =>
      rw [Lowered.statements_map_plain, List.append_nil]
      exact scope
    | rejected counter new =>
      change Scope free out (f ++ []) _
      rw [List.append_nil]
      exact scope.reject _ counter
    | introduced _ read introduced =>
      refine scope.introduce _ (not_isName_of_not_isArrayName scalar) (fun name member => ?_)
        introduced
      refine apart _ among name ?_
      rwa [ClueValue.namedIn, read]

theorem emits (scope : Scope free out f s) (emits : Emits p e s g s')
    (apart : ∀ text ∈ e.texts, ∀ name ∈ ClueValue.namedIn text,
      SharedGrid.isName name = false ∨ name ∈ free) : Scope free out (f ++ g) s' := by
  induction emits with
  | refl => rwa [List.append_nil]
  | step _ last ih =>
    rw [← List.append_assoc]
    exact ih.step last apart

theorem finish (scope : Scope free out f s) {block : Fragment} {tool : String}
    (arranged : block = s.pending ++ f ∨ block = .comment tool :: (s.pending ++ f)) :
    Scope free (out ++ block) [] { s with pending := [] } := by
  have declares : Fragment.declaredNames (out ++ block) =
      Fragment.declaredNames (out ++ s.pending ++ f) := by
    rcases arranged with rfl | rfl <;> simp
  have closed : Fragment.Closed free (out ++ block) := by
    have closed := (Fragment.closed_append (out ++ s.pending) f).2 ⟨scope.ready, scope.closed⟩
    rw [List.append_assoc, Fragment.closed_append] at closed
    rw [Fragment.closed_append]
    rcases arranged with rfl | rfl <;> exact closed
  exact
    { distinct := by simpa [declares] using scope.distinct
      names := by simpa [declares] using scope.names
      requested := by
        intro name member
        rw [List.append_nil, declares, Fragment.declaredNames_append]
        exact List.mem_append_left _ (scope.requested name member)
      unshared := scope.unshared
      known := scope.known
      ready := by rwa [List.append_nil]
      closed := trivial }

theorem closed_of_plain {f : Fragment} (plain : ∀ statement ∈ f, statement.declared? = none ∧
    ∀ condition, statement = .constrain condition →
      ∀ name ∈ condition.reads, name = SharedGrid.digits.name) :
    Fragment.declaredNames f = [] ∧ Fragment.Closed [] f := by
  induction f with
  | nil => exact ⟨rfl, trivial⟩
  | cons statement f ih =>
    obtain ⟨⟨none, digits⟩, rest⟩ := List.forall_mem_cons.1 plain
    obtain ⟨names, closed⟩ := ih rest
    cases statement with
    | comment text => exact ⟨names, closed⟩
    | declare declaration => cases none
    | constrain condition =>
      exact ⟨names, fun name read => .inl (digits condition rfl name read), closed⟩

theorem start (free : List String) (settings : Settings) (p : Puzzle) :
    Scope free (Catalogue.givensBlock settings p) [] {} := by
  obtain ⟨names, closed⟩ := closed_of_plain (f := Catalogue.givensBlock settings p)
    fun statement member => by
      obtain rfl | ⟨cell, digit, -, rfl⟩ := Catalogue.mem_givensBlock member
      · exact ⟨rfl, nofun⟩
      · refine ⟨rfl, ?_⟩
        rintro condition ⟨⟩ name read
        simpa [Expr.equals] using read
  exact
    { distinct := by simp [names]
      names := by simp [names]
      requested := by simp
      unshared := by simp
      known := by simp
      ready := by simpa using closed.mono (List.nil_subset free)
      closed := trivial }

end Scope

namespace Catalogue

variable {settings : Settings} {p : Puzzle} {m : Model}

theorem scope_of_compile_free (free : List String)
    (apart : ∀ e ∈ p.elements.entries, ∀ text ∈ e.texts, ∀ name ∈ ClueValue.namedIn text,
      SharedGrid.isName name = false ∨ name ∈ free)
    (compiled : standard.compile settings p = .ok m) :
    ∃ s, Scope free m.statements [] s ∧ s.pending = [] := by
  obtain ⟨-, statements, -⟩ := compile_eq compiled
  have run := run_induction settings p (fun out s => Scope free out [] s ∧ s.pending = [])
    (givensBlock settings p) p.elements.entries ⟨Scope.start free settings p, rfl⟩ ?_
  · rw [← statements] at run
    exact ⟨_, run⟩
  · rintro e among out s ⟨scope, waiting⟩
    obtain nothing | ⟨tool, -, -, emits, eq⟩ := block_cases settings p e s
    · rw [nothing, List.append_nil]
      exact ⟨scope, waiting⟩
    · rw [eq]
      refine ⟨?_, rfl⟩
      have made := scope.emits emits (apart e among)
      exact made.finish (arrange_cases settings e.tool _ emits.isComment_eq_false)

theorem scope_of_compile (apart : p.NamesNoSharedGrid)
    (compiled : standard.compile settings p = .ok m) :
    ∃ s, Scope [] m.statements [] s ∧ s.pending = [] :=
  scope_of_compile_free []
    (fun e among text member name named => .inl (apart e among text member name named)) compiled

theorem declares_once_before_reading (apart : p.NamesNoSharedGrid)
    (compiled : standard.compile settings p = .ok m) :
    (Fragment.declaredNames m.statements).Nodup ∧
      ∀ before condition after, m.statements = before ++ .constrain condition :: after →
        ∀ name ∈ condition.reads,
          name = SharedGrid.digits.name ∨ name ∈ Fragment.declaredNames before := by
  obtain ⟨s, scope, waiting⟩ := scope_of_compile apart compiled
  have distinct := scope.distinct
  have ready := scope.ready
  rw [waiting, List.append_nil, List.append_nil] at distinct
  rw [waiting, List.append_nil] at ready
  refine ⟨distinct, fun before condition after split name read => ?_⟩
  rw [split] at ready
  exact ready.reads name read

def sharedTotalCages : Puzzle :=
  let cage (cells : List Position) (text : String) : Instance := ⟨.cage cells, some text⟩
  let cages : Element :=
    { tool := "killer_cage"
      instances := Keyed.ofList [("a", cage [⟨0, 0⟩, ⟨0, 1⟩] "3-7"),
        ("b", cage [⟨0, 0⟩, ⟨1, 0⟩] "3-7"), ("c", cage [⟨2, 2⟩] "n")] }
  (Puzzle.ofGrid (.standard 4)).addElement cages

theorem declares_once_before_reading_cages :
    ∃ m, standard.compile {} sharedTotalCages = .ok m ∧
      (Fragment.declaredNames m.statements).Nodup ∧
        ∀ before condition after, m.statements = before ++ .constrain condition :: after →
          ∀ name ∈ condition.reads,
            name = SharedGrid.digits.name ∨ name ∈ Fragment.declaredNames before := by
  obtain ⟨m, compiled⟩ := exists_model {} (by decide : standard.mismatch? sharedTotalCages = none)
  exact ⟨m, compiled, declares_once_before_reading (by decide) compiled⟩

end Catalogue

end VariantSudoku
