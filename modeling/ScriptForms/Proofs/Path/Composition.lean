import ScriptForms.Proofs.Path.SearchPath

/-!
# Following paths one after the other

A relative path is resolved by textual rules alone, so it can be resolved in steps: resolving `p`
and then `q` from there is resolving `p/q`. The normal form of an absolute path is fixed by two
things, the number of slashes that it starts with and its components, and each of them is followed
through a join on its own:

* joining a relative path does not touch the slashes in front (`leadingSlashes_join`);
* the components of a join are reached from those of the directory by adding one component after the
  other (`normalComponents_join`, with `follow` for the steps), and `follow` takes a path in parts
  (`follow_append`).

Putting a path into normal form changes neither of the two (`leadingSlashes_normalize`,
`normalComponents_normalize`), which is what lets a resolved path be the base of the next one.
-/

namespace ScriptForms.Path

variable {cwd root path : List Char}

/-! ### Names -/

/-- The components that stay in the normal form of an absolute path: what is not empty and no point
or double point, and has no slash in it. -/
structure IsName (component : List Char) : Prop where
  ne_nil : component ≠ []
  ne_point : component ≠ ['.']
  ne_doublePoint : component ≠ ['.', '.']
  no_slash : '/' ∉ component

theorem pushComponent_nil (absolute : Bool) (done : List (List Char)) :
    pushComponent absolute done [] = done :=
  if_pos (.inl rfl)

/-- A name is put on top of what is there. -/
theorem pushComponent_name {component : List Char} (h : IsName component) (absolute : Bool)
    (done : List (List Char)) : pushComponent absolute done component = component :: done := by
  have hdropped : ¬(component = [] ∨ component = ['.']) := not_or.2 ⟨h.ne_nil, h.ne_point⟩
  unfold pushComponent
  rw [if_neg hdropped, if_neg h.ne_doublePoint]

/-- Below the root, adding a component leaves names only. -/
theorem isName_pushComponent {done : List (List Char)} {component : List Char}
    (hdone : ∀ name ∈ done, IsName name) (hcomponent : '/' ∉ component) :
    ∀ name ∈ pushComponent true done component, IsName name := by
  unfold pushComponent
  split
  · exact hdone
  · next hdropped =>
    obtain ⟨hempty, hpoint⟩ := not_or.1 hdropped
    split
    · -- a double point takes the name before it away, if there is one
      cases done with
      | nil => exact List.forall_mem_nil _
      | cons last rest =>
        obtain ⟨hlast, hrest⟩ := List.forall_mem_cons.1 hdone
        show ∀ name ∈ if last = ['.', '.'] then component :: last :: rest else rest, IsName name
        rw [if_neg hlast.ne_doublePoint]
        exact hrest
    · next hdouble => exact List.forall_mem_cons.2 ⟨⟨hempty, hpoint, hdouble, hcomponent⟩, hdone⟩

/-- By induction on the components: only names are left over. -/
theorem isName_foldl_pushComponent {more done : List (List Char)}
    (hdone : ∀ name ∈ done, IsName name)
    (hmore : ∀ component ∈ more, '/' ∉ component) :
    ∀ name ∈ more.foldl (pushComponent true) done, IsName name := by
  induction more generalizing done with
  | nil => exact hdone
  | cons component more ih =>
    obtain ⟨hcomponent, hrest⟩ := List.forall_mem_cons.1 hmore
    exact ih (isName_pushComponent hdone hcomponent) hrest

/-- Names are added as they stand. -/
theorem foldl_pushComponent_names {names : List (List Char)} (hnames : ∀ name ∈ names, IsName name)
    (absolute : Bool) (done : List (List Char)) :
    names.foldl (pushComponent absolute) done = names.reverse ++ done := by
  induction names generalizing done with
  | nil => rfl
  | cons name names ih =>
    obtain ⟨hname, hrest⟩ := List.forall_mem_cons.1 hnames
    rw [List.foldl_cons, pushComponent_name hname, ih hrest, List.reverse_cons, List.append_assoc]
    rfl

/-! ### Following a path -/

/-- A slash divides the components of what stands before and behind it. -/
theorem components_append_slash (path rest : List Char) :
    components (path ++ '/' :: rest) = components path ++ components rest :=
  List.splitOnP_append_cons path rest (beq_self_eq_true '/')

/-- The names that a path leads to from the directory with the names `names`, the root stopping
every double point. -/
def follow (names : List (List Char)) (path : List Char) : List (List Char) :=
  ((components path).foldl (pushComponent true) names.reverse).reverse

/-- Following a path in two parts. -/
theorem follow_append (names : List (List Char)) (path rest : List Char) :
    follow names (path ++ '/' :: rest) = follow (follow names path) rest := by
  rw [follow, follow, follow, components_append_slash, List.foldl_append, List.reverse_reverse]

theorem follow_nil (names : List (List Char)) : follow names [] = names := by
  show ((pushComponent true names.reverse []).reverse) = names
  rw [pushComponent_nil, List.reverse_reverse]

/-- The normal form of an absolute path has the names that the path leads to from the root. -/
theorem normalComponents_eq_follow (hpath : isAbsolute path = true) :
    normalComponents path = follow [] path := by
  rw [normalComponents, hpath]
  rfl

/-- An absolute path has only names for normal components. -/
theorem isName_of_mem_normalComponents (hpath : isAbsolute path = true) :
    ∀ name ∈ normalComponents path, IsName name := by
  rw [normalComponents_eq_follow hpath]
  intro name hname
  exact isName_foldl_pushComponent (List.forall_mem_nil _) (fun _ ↦ notMem_of_mem_splitOn) name
    (List.mem_reverse.1 hname)

/-- From names that are written out one comes to these names. -/
theorem follow_intercalate {names : List (List Char)} (hnames : ∀ name ∈ names, IsName name) :
    follow [] (['/'].intercalate names) = names := by
  cases names with
  | nil => exact follow_nil []
  | cons first rest =>
    have hcomponents : components (['/'].intercalate (first :: rest)) = first :: rest :=
      List.splitOn_intercalate '/' (fun name hname ↦
        (hnames name hname).no_slash) (List.cons_ne_nil _ _)
    rw [follow, hcomponents, foldl_pushComponent_names hnames, List.reverse_nil, List.append_nil,
      List.reverse_reverse]

/-! ### Slashes in front -/

/-- Whether a path is absolute is seen at its beginning. -/
theorem isAbsolute_append (hne : path ≠ []) (rest : List Char) :
    isAbsolute (path ++ rest) = isAbsolute path := by
  obtain ⟨c, tail, rfl⟩ := List.exists_cons_of_ne_nil hne
  rfl

/-- An absolute path starts with one slash, with two or with more. -/
theorem slashes_cases (hpath : isAbsolute path = true) :
    (∃ rest, path = '/' :: rest ∧ isAbsolute rest = false) ∨
      (∃ rest, path = '/' :: '/' :: rest ∧ isAbsolute rest = false) ∨
      ∃ rest, path = '/' :: '/' :: '/' :: rest := by
  obtain ⟨rest, rfl⟩ := isAbsolute_iff.1 hpath
  cases hrest : isAbsolute rest with
  | false => exact .inl ⟨rest, rfl, hrest⟩
  | true =>
    obtain ⟨later, rfl⟩ := isAbsolute_iff.1 hrest
    cases hlater : isAbsolute later with
    | false => exact .inr (.inl ⟨later, rfl, hlater⟩)
    | true =>
      obtain ⟨last, rfl⟩ := isAbsolute_iff.1 hlater
      exact .inr (.inr ⟨last, rfl⟩)

theorem leadingSlashes_one {rest : List Char} (h : isAbsolute rest = false) :
    leadingSlashes ('/' :: rest) = 1 := by
  cases rest with
  | nil => rfl
  | cons c rest =>
    have hc : c ≠ '/' := by simpa [isAbsolute] using h
    simp [leadingSlashes, hc]

theorem leadingSlashes_two {rest : List Char} (h : isAbsolute rest = false) :
    leadingSlashes ('/' :: '/' :: rest) = 2 := by
  cases rest with
  | nil => rfl
  | cons c rest =>
    have hc : c ≠ '/' := by simpa [isAbsolute] using h
    simp [leadingSlashes, hc]

/-- One slash or two: three or more count as one. -/
theorem leadingSlashes_cases (hpath : isAbsolute path = true) :
    leadingSlashes path = 1 ∨ leadingSlashes path = 2 := by
  rcases slashes_cases hpath with ⟨rest, rfl, hrest⟩ | ⟨rest, rfl, hrest⟩ | ⟨rest, rfl⟩
  · exact .inl (leadingSlashes_one hrest)
  · exact .inr (leadingSlashes_two hrest)
  · exact .inl rfl

/-- The slashes in front of a path are seen in its first part, if they end there. -/
theorem leadingSlashes_append {front rest : List Char} (hfront : isAbsolute front = true)
    (hends : front.getLast? = some '/' → isAbsolute rest = false) :
    leadingSlashes (front ++ rest) = leadingSlashes front := by
  -- what stands behind the slashes of the first part does not start with a slash
  have hbehind {inner : List Char} (hinner : isAbsolute inner = false)
      (hempty : inner = [] → front.getLast? = some '/') : isAbsolute (inner ++ rest) = false := by
    by_cases hne : inner = []
    · rw [hne, List.nil_append]
      exact hends (hempty hne)
    · rw [isAbsolute_append hne, hinner]
  rcases slashes_cases hfront with ⟨inner, rfl, hinner⟩ | ⟨inner, rfl, hinner⟩ | ⟨inner, rfl⟩
  · rw [leadingSlashes_one hinner]
    exact leadingSlashes_one (hbehind hinner fun hnil ↦ by rw [hnil]; rfl)
  · rw [leadingSlashes_two hinner]
    exact leadingSlashes_two (hbehind hinner fun hnil ↦ by rw [hnil]; rfl)
  · rfl

/-! ### Joins -/

/-- Joining is writing a slash in between, unless the directory ends in one already. -/
theorem join_cases (hroot : isAbsolute root = true) (hpath : isAbsolute path = false) :
    (∃ front, root = front ++ ['/'] ∧ join root path = root ++ path) ∨
      (root.getLast? ≠ some '/' ∧ join root path = root ++ '/' :: path) := by
  rw [join, if_neg (Bool.not_eq_true _ ▸ hpath)]
  by_cases hlast : root.getLast? = some '/'
  · rw [if_pos (.inr hlast)]
    obtain ⟨front, hfront⟩ := List.getLast?_eq_some_iff.1 hlast
    exact .inl ⟨front, hfront, rfl⟩
  · have hne : root ≠ [] := by
      rintro rfl
      cases hroot
    rw [if_neg (not_or.2 ⟨hne, hlast⟩)]
    exact .inr ⟨hlast, rfl⟩

/-- A join leads to where the path leads to from the directory. -/
theorem normalComponents_join (hroot : isAbsolute root = true) (hpath : isAbsolute path = false) :
    normalComponents (join root path) = follow (normalComponents root) path := by
  rw [normalComponents_eq_follow (isAbsolute_join hroot path), normalComponents_eq_follow hroot]
  rcases join_cases hroot hpath with ⟨front, rfl, hjoin⟩ | ⟨-, hjoin⟩
  · -- the slash at the end of the directory leads nowhere
    rw [hjoin, List.append_assoc, List.singleton_append, follow_append, follow_append, follow_nil]
  · rw [hjoin, follow_append]

/-- A relative path does not change the slashes at the beginning. -/
theorem leadingSlashes_join (hroot : isAbsolute root = true) (hpath : isAbsolute path = false) :
    leadingSlashes (join root path) = leadingSlashes root := by
  rcases join_cases hroot hpath with ⟨front, -, hjoin⟩ | ⟨hlast, hjoin⟩
  · rw [hjoin, leadingSlashes_append hroot fun _ ↦ hpath]
  · rw [hjoin, leadingSlashes_append hroot fun h ↦ absurd h hlast]

/-! ### Normal forms -/

/-- One or two slashes and then names, with single slashes between them. -/
def IsResolved (path : List Char) : Prop :=
  ∃ slashes names, (slashes = 1 ∨ slashes = 2) ∧ (∀ name ∈ names, IsName name) ∧
    path = List.replicate slashes '/' ++ ['/'].intercalate names

/-- The normal form of an absolute path is never empty. -/
theorem normalize_of_isAbsolute (hpath : isAbsolute path = true) :
    normalize path = List.replicate (leadingSlashes path) '/' ++
      ['/'].intercalate (normalComponents path) := by
  refine if_neg fun hnil ↦ ?_
  have hslashes := congrArg List.length (List.append_eq_nil_iff.1 hnil).1
  rw [List.length_replicate] at hslashes
  exact Nat.ne_of_gt (leadingSlashes_pos hpath) hslashes

theorem isResolved_normalize (hpath : isAbsolute path = true) : IsResolved (normalize path) :=
  ⟨leadingSlashes path, normalComponents path, leadingSlashes_cases hpath,
    isName_of_mem_normalComponents hpath, normalize_of_isAbsolute hpath⟩

/-- Names joined by slashes do not start with a slash. -/
theorem isAbsolute_intercalate {names : List (List Char)} (hnames : ∀ name ∈ names, IsName name) :
    isAbsolute (['/'].intercalate names) = false := by
  cases names with
  | nil => rfl
  | cons name names =>
    have hname : IsName name := hnames name List.mem_cons_self
    obtain ⟨c, tail, rfl⟩ := List.exists_cons_of_ne_nil hname.ne_nil
    have hc : c ≠ '/' := fun h ↦ hname.no_slash (h ▸ List.mem_cons_self)
    cases names with
    | nil => simpa [isAbsolute] using hc
    | cons other names => simpa [isAbsolute] using hc

theorem leadingSlashes_normalize (hpath : isAbsolute path = true) :
    leadingSlashes (normalize path) = leadingSlashes path := by
  have hrest := isAbsolute_intercalate (isName_of_mem_normalComponents hpath)
  rw [normalize_of_isAbsolute hpath]
  rcases leadingSlashes_cases hpath with hslashes | hslashes
  · rw [hslashes]
    exact leadingSlashes_one hrest
  · rw [hslashes]
    exact leadingSlashes_two hrest

theorem normalComponents_normalize (hpath : isAbsolute path = true) :
    normalComponents (normalize path) = normalComponents path := by
  have hnames := follow_intercalate (isName_of_mem_normalComponents hpath)
  -- each slash in front stands behind an empty component, which leads nowhere
  have hslash (rest : List Char) : follow [] ('/' :: rest) = follow [] rest := by
    rw [← List.nil_append ('/' :: rest), follow_append, follow_nil]
  rw [normalComponents_eq_follow (isAbsolute_normalize hpath), normalize_of_isAbsolute hpath]
  rcases leadingSlashes_cases hpath with hslashes | hslashes
  · rw [hslashes]
    exact (hslash _).trans hnames
  · rw [hslashes]
    exact ((hslash _).trans (hslash _)).trans hnames

/-- The normal form depends on the slashes in front and on the components only. -/
theorem normalize_congr {other : List Char} (hslashes : leadingSlashes path = leadingSlashes other)
    (hcomponents : normalComponents path = normalComponents other) :
    normalize path = normalize other := by
  rw [normalize, normalize, hslashes, hcomponents]

/-- Joining to a resolved join is joining both paths at once. -/
theorem normalize_join_normalize {rest : List Char} (hroot : isAbsolute root = true)
    (hne : path ≠ [])
    (hpath : isAbsolute path = false) (hrest : isAbsolute rest = false) :
    normalize (join (normalize (join root path)) rest) =
      normalize (join root (path ++ '/' :: rest)) := by
  have hjoin : isAbsolute (join root path) = true := isAbsolute_join hroot path
  have hboth : isAbsolute (path ++ '/' :: rest) = false := (isAbsolute_append hne _).trans hpath
  apply normalize_congr
  · rw [leadingSlashes_join (isAbsolute_normalize hjoin) hrest, leadingSlashes_normalize hjoin,
      leadingSlashes_join hroot hpath, leadingSlashes_join hroot hboth]
  · rw [normalComponents_join (isAbsolute_normalize hjoin) hrest, normalComponents_normalize hjoin,
      normalComponents_join hroot hpath, normalComponents_join hroot hboth, follow_append]

/-! ### Resolving -/

/-- The directory from which relative paths are resolved. -/
def startDirectory (cwd : List Char) (base : Option (List Char)) : List Char :=
  base.elim cwd (absolute cwd none)

/-- Whatever the base, paths are resolved from an absolute directory. -/
theorem isAbsolute_startDirectory (hcwd : isAbsolute cwd = true) (base : Option (List Char)) :
    isAbsolute (startDirectory cwd base) = true := by
  cases base with
  | none => exact hcwd
  | some base => exact isAbsolute_absolute hcwd none base

/-- A relative path is resolved from the starting directory and normalized. -/
theorem absolute_of_relative (hpath : isAbsolute path = false) (cwd : List Char)
    (base : Option (List Char)) :
    absolute cwd base path = normalize (join (startDirectory cwd base) path) := by
  have hrelative : ¬isAbsolute path = true := Bool.not_eq_true _ ▸ hpath
  cases base with
  | none => exact if_neg hrelative
  | some base => exact if_neg hrelative

/-- **Resolving composes.** From an absolute working directory and any base, a relative path
resolves to one or two slashes followed by names, none of them empty, a point or a double point.
Resolving a second relative path from there gives what the two paths give when they are written one
behind the other. -/
theorem absolute_composes (hcwd : isAbsolute cwd = true) (base : Option (List Char))
    {first second : List Char}
    (hne : first ≠ []) (hfirst : isAbsolute first = false) (hsecond : isAbsolute second = false) :
    isAbsolute (absolute cwd base first) = true ∧ IsResolved (absolute cwd base first) ∧
      absolute cwd (some (absolute cwd base first)) second =
        absolute cwd base (first ++ '/' :: second) := by
  have hstart := isAbsolute_startDirectory hcwd base
  have hboth : isAbsolute (first ++ '/' :: second) = false := (isAbsolute_append hne _).trans hfirst
  have hresolved := isAbsolute_absolute hcwd base first
  refine ⟨hresolved, ?_, ?_⟩
  · rw [absolute_of_relative hfirst]
    exact isResolved_normalize (isAbsolute_join hstart first)
  · have hbase : startDirectory cwd (some (absolute cwd base first)) = absolute cwd base first :=
      absolute_of_isAbsolute hresolved none
    rw [absolute_of_relative hsecond, hbase, absolute_of_relative hfirst,
      absolute_of_relative hboth,
      normalize_join_normalize hstart hne hfirst hsecond]

/-- Double points that climb past the root, from a base that is not in normal form. -/
theorem absolute_composes_past_root :
    let base := some "//srv/./x".toList
    let first := ".././../a//b/..".toList
    let second := "../../c/".toList
    (isAbsolute "/work".toList = true ∧ first ≠ [] ∧ isAbsolute first = false ∧
      isAbsolute second = false) ∧
      absolute "/work".toList base first = "//a".toList ∧
      absolute "/work".toList (some "//a".toList) second = "//c".toList ∧
      absolute "/work".toList base (first ++ '/' :: second) = "//c".toList := by
  intro base first second
  have hcwd : isAbsolute "/work".toList = true := by decide +kernel
  have hrelative : first ≠ [] ∧ isAbsolute first = false ∧
    isAbsolute second = false := by decide +kernel
  have hresolved : absolute "/work".toList base first = "//a".toList := by decide +kernel
  have hthere : absolute "/work".toList (some "//a".toList) second =
    "//c".toList := by decide +kernel
  have hboth := (absolute_composes hcwd base hrelative.1 hrelative.2.1 hrelative.2.2).2.2
  rw [hresolved, hthere] at hboth
  exact ⟨⟨hcwd, hrelative⟩, hresolved, hthere, hboth.symm⟩

end ScriptForms.Path
