import PgpCard.Proofs.Attempt
import PgpCard.Store.Volume

/-!
# What the steps of a volume change

* `Volume.Walkable`        : every name on a way leads to a directory;
* `Volume.locate_eq_ok_iff` : behind such a way a file has one place, whatever the volume holds;
* `Volume.makeDirectory_walkable`, `Volume.makeDirectory_of_walkable` : a directory that was made
  can be walked to, and there is nothing left to make then;
* `Volume.leads_step`      : a step that is not done changes no node;
* `Volume.locate_congr`    : a path leads to the same place while the directories are the same.
-/

set_option autoImplicit false

namespace PgpCard

open Attempt

namespace Volume

variable {volume after : Volume} {path place current : Path} {node : Node}

/-! ## Nodes -/

@[simp] theorem node?_root : volume.node? [] = some (.directory defaultMode) := rfl

theorem node?_of_ne_nil (h : path ≠ []) :
    volume.node? path = (volume.nodes.find? (·.1 == path)).map (·.2) := by
  rw [node?, if_neg (by simpa using h)]

theorem find?_filter_of_ne {nodes : List (Path × Node)} (h : path ≠ place) :
    (nodes.filter (·.1 != place)).find? (·.1 == path) = nodes.find? (·.1 == path) := by
  rw [List.find?_filter]
  congr 1
  funext entry
  by_cases same : entry.1 = path
  · simp [same, h]
  · simp [same]

theorem find?_filter_self {nodes : List (Path × Node)} :
    (nodes.filter (·.1 != place)).find? (·.1 == place) = none := by
  simp [List.find?_eq_none]

theorem node?_put_self (h : place ≠ []) : (volume.put place node).node? place = some node := by
  rw [node?_of_ne_nil h, put, List.find?_append, find?_filter_self]
  simp

theorem node?_put_of_ne (h : path ≠ place) :
    (volume.put place node).node? path = volume.node? path := by
  by_cases root : path = []
  · rw [root, node?_root, node?_root]
  · rw [node?_of_ne_nil root, node?_of_ne_nil root, put, List.find?_append, find?_filter_of_ne h]
    simp [Ne.symm h]

theorem node?_drop_self (h : place ≠ []) : (volume.drop place).node? place = none := by
  rw [node?_of_ne_nil h, drop, find?_filter_self, Option.map_none]

theorem node?_drop_of_ne (h : path ≠ place) :
    (volume.drop place).node? path = volume.node? path := by
  by_cases root : path = []
  · rw [root, node?_root, node?_root]
  · rw [node?_of_ne_nil root, node?_of_ne_nil root, drop, find?_filter_of_ne h]

theorem isDirectory_iff :
    volume.isDirectory path = true ↔ ∃ mode, volume.node? path = some (.directory mode) := by
  unfold isDirectory
  cases volume.node? path with
  | none => simp
  | some node => cases node <;> simp

theorem isDirectory_congr (h : after.node? path = volume.node? path) :
    after.isDirectory path = volume.isDirectory path := by
  unfold isDirectory
  rw [h]

/-- A new directory takes no directory away. -/
theorem isDirectory_put_directory {mode : Nat} :
    (volume.put place (.directory mode)).isDirectory path =
      (decide (path = place) || volume.isDirectory path) := by
  by_cases here : path = place
  · subst here
    by_cases root : path = []
    · simp [root, isDirectory]
    · simp [isDirectory, node?_put_self root]
  · simp [here, isDirectory_congr (node?_put_of_ne here)]

/-! ## Ways -/

/-- A component that is a name: it neither stays where it is nor goes back. -/
def IsName (component : String) : Prop := component ≠ "" ∧ component ≠ "." ∧ component ≠ ".."

/-- The place to which components lead, whatever stands on the way. -/
def settle (current : Path) : List String → Path
  | [] => current
  | "" :: rest | "." :: rest => settle current rest
  | ".." :: rest => settle current.dropLast rest
  | name :: rest => settle (current ++ [name]) rest

/-- Every name on the way leads to a directory. -/
def Walkable (volume : Volume) (current : Path) : List String → Prop
  | [] => True
  | "" :: rest | "." :: rest => Walkable volume current rest
  | ".." :: rest => Walkable volume current.dropLast rest
  | name :: rest =>
    volume.isDirectory (current ++ [name]) = true ∧ Walkable volume (current ++ [name]) rest

/-- No component is longer than a name may be. -/
def AreShort (components : List String) : Prop :=
  ∀ component ∈ components, (Utf8.ofString component).length ≤ maxName

instance (components : List String) : Decidable (AreShort components) :=
  List.decidableBAll (fun component => (Utf8.ofString component).length ≤ maxName) components

theorem Walkable.mono {components : List String}
    (grown : ∀ path, volume.isDirectory path = true → after.isDirectory path = true)
    (walkable : Walkable volume current components) : Walkable after current components := by
  fun_induction Walkable volume current components with
  | case1 => trivial
  | case2 current rest ih => exact ih walkable
  | case3 current rest ih => exact ih walkable
  | case4 current rest ih => exact ih walkable
  | case5 current name rest not_empty not_here not_back ih =>
    rw [Walkable.eq_5 _ _ _ _ not_empty not_here not_back]
    exact ⟨grown _ walkable.1, ih walkable.2⟩

theorem areShort_cons {component : String} {components : List String} :
    AreShort (component :: components) ↔
      (Utf8.ofString component).length ≤ maxName ∧ AreShort components :=
  List.forall_mem_cons

theorem areShort_cons_of_not_name {component : String} {components : List String}
    (h : component ∈ ["", ".", ".."]) :
    AreShort (component :: components) ↔ AreShort components := by
  have short : ∀ special ∈ ["", ".", ".."], (Utf8.ofString special).length ≤ maxName := by
    decide +kernel
  rw [areShort_cons, and_iff_right (short component h)]

section Onwards

variable {name : String} (h : IsName name) {rest : List String} (more : rest ≠ [])

include h more

omit more in
theorem follow_of_long (long : maxName < (Utf8.ofString name).length) :
    follow volume current (name :: rest) = .error .nameTooLong := by
  rw [follow.eq_5 _ _ _ _ h.1 h.2.1 h.2.2, if_pos long]

theorem follow_of_directory (short : (Utf8.ofString name).length ≤ maxName)
    (here : volume.isDirectory (current ++ [name]) = true) :
    follow volume current (name :: rest) = follow volume (current ++ [name]) rest := by
  obtain ⟨mode, stands⟩ := isDirectory_iff.mp here
  rw [follow.eq_5 _ _ _ _ h.1 h.2.1 h.2.2, if_neg (Nat.not_lt.mpr short)]
  simp only [stands, List.isEmpty_iff, if_neg more]

theorem follow_rest (found : follow volume current (name :: rest) = .ok place) :
    follow volume (current ++ [name]) rest = .ok place := by
  rw [follow.eq_5 _ _ _ _ h.1 h.2.1 h.2.2] at found
  simp only [List.isEmpty_iff, if_neg more] at found
  split at found
  · cases found
  split at found
  · cases found
  · cases found
  · exact found

end Onwards

theorem follow_last {name : String} (h : IsName name) :
    follow volume current [name] =
      if AreShort [name] then .ok (current ++ [name]) else .error .nameTooLong := by
  have short : AreShort [name] ↔ ¬ maxName < (Utf8.ofString name).length := by
    simp [AreShort]
  rw [follow.eq_5 _ _ _ _ h.1 h.2.1 h.2.2]
  simp only [List.isEmpty_nil, if_true, short, ite_not]

/-- Behind a way that can be walked, the place of a file depends on the names only. -/
theorem follow_of_walkable {components : List String} {file : String} (name : IsName file)
    (walkable : Walkable volume current components) :
    follow volume current (components ++ [file]) =
      if AreShort (components ++ [file]) then .ok (settle current components ++ [file])
      else .error .nameTooLong := by
  fun_induction settle current components with
  | case1 current => exact follow_last name
  | case2 current rest ih | case3 current rest ih | case4 current rest ih =>
    simpa [follow, areShort_cons_of_not_name] using ih walkable
  | case5 current component rest not_empty not_here not_back ih =>
    rw [Walkable.eq_5 _ _ _ _ not_empty not_here not_back] at walkable
    obtain ⟨here, beyond⟩ := walkable
    have isName : IsName component := ⟨not_empty, not_here, not_back⟩
    simp only [List.cons_append, areShort_cons]
    by_cases short : (Utf8.ofString component).length ≤ maxName
    · rw [follow_of_directory isName (by simp) short here]
      simpa only [short, true_and] using ih beyond
    · rw [follow_of_long isName (Nat.lt_of_not_le short),
        if_neg (fun both => short both.1)]

/-- A path that can be used: it holds no zero character, and neither it nor a name of it is too
long. -/
def Takes (path : Path) : Prop :=
  (∀ component ∈ path, component.toList.contains '\x00' = false) ∧ path.size ≤ maxPath ∧
    AreShort path

instance (path : Path) : Decidable (Takes path) := inferInstanceAs (Decidable (_ ∧ _ ∧ _))

section Places

variable {directory : Path} {file : String} (name : IsName file)
  (walkable : Walkable volume [] directory)

include name walkable

theorem locate_of_takes (takes : Takes (directory ++ [file])) :
    volume.locate (directory ++ [file]) = .ok (settle [] directory ++ [file]) := by
  obtain ⟨clean, small, short⟩ := takes
  have valid : ¬ (directory ++ [file]).any (fun name => name.toList.contains '\x00') = true := by
    rw [List.any_eq_true]
    rintro ⟨component, mem, zero⟩
    rw [clean component mem] at zero
    cases zero
  rw [locate, if_neg valid, if_neg (Nat.not_lt.mpr small), follow_of_walkable name walkable,
    if_pos short]

/-- That a path cannot be used is told apart from that nothing is there. -/
theorem locate_of_not_takes (refused : ¬ Takes (directory ++ [file])) :
    ∃ e, e ≠ .notFound ∧ volume.locate (directory ++ [file]) = .error e := by
  rw [locate, follow_of_walkable name walkable]
  split
  · exact ⟨.invalidName, nofun, rfl⟩
  rename_i valid
  split
  · exact ⟨.nameTooLong, nofun, rfl⟩
  rename_i small
  refine ⟨.nameTooLong, nofun, if_neg fun short => refused ⟨?_, Nat.not_lt.mp small, short⟩⟩
  simpa only [List.any_eq_true, not_exists, not_and, Bool.not_eq_true] using valid

theorem locate_eq_ok_iff :
    volume.locate (directory ++ [file]) = .ok place ↔
      Takes (directory ++ [file]) ∧ place = settle [] directory ++ [file] := by
  by_cases takes : Takes (directory ++ [file])
  · rw [locate_of_takes name walkable takes, Except.ok.injEq, and_iff_right takes, eq_comm]
  · obtain ⟨e, -, located⟩ := locate_of_not_takes name walkable takes
    rw [located]
    exact ⟨nofun, fun both => absurd both.1 takes⟩

end Places

/-! ## Steps -/

/-- The machine runs and no step fails. -/
structure Reliable (volume : Volume) : Prop where
  running : volume.running = true
  fates : ∀ n, volume.fates n = .done

theorem Reliable.put (reliable : volume.Reliable) : (volume.put place node).Reliable :=
  ⟨reliable.running, reliable.fates⟩

theorem Reliable.drop (reliable : volume.Reliable) : (volume.drop place).Reliable :=
  ⟨reliable.running, reliable.fates⟩

/-- The same nodes, and no failure to come where none was to come. -/
structure Alike (volume after : Volume) : Prop where
  nodes : after.nodes = volume.nodes
  reliable : volume.Reliable → after.Reliable

theorem Alike.node? (alike : Alike volume after) (path : Path) :
    after.node? path = volume.node? path := by
  unfold Volume.node?
  rw [alike.nodes]

theorem Alike.isDirectory (alike : Alike volume after) (path : Path) :
    after.isDirectory path = volume.isDirectory path :=
  isDirectory_congr (alike.node? path)

/-- A step that is not done changes no node. -/
theorem leads_step {change : Volume → Except VolumeError Volume}
    {post : Except VolumeError Unit → Volume → Prop}
    (done : ∀ counted after, Alike volume counted → change counted = .ok after →
      post (.ok ()) after)
    (undone : ∀ e after, Alike volume after → post (.error e) after) :
    (step change).Leads volume post := by
  obtain ⟨nodes, fates, steps, running⟩ := volume
  cases running with
  | false => exact undone _ _ ⟨rfl, id⟩
  | true =>
    have counted : Alike ⟨nodes, fates, steps, true⟩ ⟨nodes, fates, steps + 1, true⟩ :=
      ⟨rfl, fun reliable => ⟨rfl, reliable.fates⟩⟩
    simp only [Leads, step, Bool.not_true, Bool.false_eq_true, if_false]
    cases fate : fates steps with
    | stopped =>
      exact undone _ _ ⟨rfl, fun reliable => absurd (fate.symm.trans (reliable.fates steps)) (by decide)⟩
    | refused => exact undone _ _ counted
    | done =>
      cases changed : change ⟨nodes, fates, steps + 1, true⟩ with
      | ok after => exact done _ _ counted changed
      | error e => exact undone _ _ counted

/-- Where no step fails, a change that is possible is made. -/
theorem step_of_reliable {change : Volume → Except VolumeError Volume} (reliable : volume.Reliable)
    (possible : ∀ counted, Alike volume counted →
      ∃ after, change counted = .ok after ∧ after.Reliable) :
    ∃ after, step change volume = .ok () after ∧ after.Reliable := by
  obtain ⟨nodes, fates, steps, running⟩ := volume
  obtain ⟨rfl, all_done⟩ := reliable
  have fate : fates steps = .done := all_done steps
  obtain ⟨after, changed, good⟩ := possible ⟨nodes, fates, steps + 1, true⟩
    ⟨rfl, fun _ => ⟨rfl, all_done⟩⟩
  refine ⟨after, ?_, good⟩
  simp only [step, Bool.not_true, Bool.false_eq_true, if_false, fate, changed]

/-! ## Making directories -/

theorem follow_of_names {components : List String}
    (names : ∀ component ∈ components, IsName component)
    (found : follow volume current components = .ok place) : place = current ++ components := by
  induction components generalizing current with
  | nil =>
    rw [follow] at found
    cases found
    rw [List.append_nil]
  | cons name rest ih =>
    have here := names name List.mem_cons_self
    by_cases last : rest = []
    · subst last
      rw [follow_last here] at found
      split at found
      · cases found
        rfl
      · cases found
    · rw [ih (fun component mem => names component (List.mem_cons_of_mem _ mem))
          (follow_rest here last found), List.append_assoc, List.singleton_append]

theorem follow_of_locate (located : volume.locate path = .ok place) :
    follow volume [] path = .ok place := by
  unfold locate at located
  split at located
  · cases located
  split at located
  · cases located
  · exact located

/-- Where a path leads depends on the directories alone. -/
theorem follow_congr {components : List String}
    (same : ∀ path, after.isDirectory path = volume.isDirectory path)
    (found : follow volume current components = .ok place) :
    follow after current components = .ok place := by
  fun_induction follow volume current components with
  | case1 => exact found
  | case2 _ _ ih | case3 _ _ ih | case4 _ _ ih =>
    rw [follow]
    exact ih found
  | case5 | case7 | case8 => cases found
  | case6 current name rest not_empty not_here not_back short next last =>
    rw [follow.eq_5 _ _ _ _ not_empty not_here not_back, if_neg short]
    rwa [if_pos last]
  | case9 current name rest not_empty not_here not_back short next more mode stands ih =>
    have beyond : after.isDirectory next = true :=
      (same next).trans (isDirectory_iff.mpr ⟨mode, stands⟩)
    rw [follow_of_directory ⟨not_empty, not_here, not_back⟩ (by simpa using more)
      (Nat.not_lt.mp short) beyond]
    exact ih found

theorem locate_congr (same : ∀ path, after.isDirectory path = volume.isDirectory path)
    (located : volume.locate path = .ok place) : after.locate path = .ok place := by
  have followed := follow_of_locate located
  unfold locate at located ⊢
  split at located
  · cases located
  rename_i valid
  split at located
  · cases located
  rename_i small
  rw [if_neg valid, if_neg small]
  exact follow_congr same followed

section Descend

variable {name : String} (h : IsName name) {rest : List String}

include h

theorem descend_of_directory {mode : Nat}
    (stands : volume.node? (current ++ [name]) = some (.directory mode)) :
    descend current (name :: rest) volume = descend (current ++ [name]) rest volume := by
  rw [descend.eq_5 _ _ _ h.1 h.2.1 h.2.2, get_bind, stands]

theorem descend_of_file {data : Bytes}
    (stands : volume.node? (current ++ [name]) = some (.file data)) :
    descend current (name :: rest) volume = .error .alreadyThere volume := by
  rw [descend.eq_5 _ _ _ h.1 h.2.1 h.2.2, get_bind, stands]
  rfl

theorem descend_of_missing (stands : volume.node? (current ++ [name]) = none) :
    descend current (name :: rest) volume =
      (step (fun volume => (volume.locate (current ++ [name])).map
        (volume.put · (.directory defaultMode))) >>= fun _ =>
          descend (current ++ [name]) rest) volume := by
  rw [descend.eq_5 _ _ _ h.1 h.2.1 h.2.2, get_bind, stands]

end Descend

theorem descend_walkable {components : List String}
    (names : ∀ component ∈ current, IsName component) :
    (descend current components).Leads volume fun r after =>
      (∀ path, volume.isDirectory path = true → after.isDirectory path = true) ∧
        (r = .ok () → Walkable after current components) := by
  fun_induction settle current components generalizing volume with
  | case1 current => exact ⟨fun _ h => h, fun _ => trivial⟩
  | case2 current rest ih | case3 current rest ih => exact ih names
  | case4 current rest ih => exact ih fun c mem => names c (List.dropLast_subset _ mem)
  | case5 current component rest not_empty not_here not_back ih =>
    have name : IsName component := ⟨not_empty, not_here, not_back⟩
    have deeper : ∀ c ∈ current ++ [component], IsName c := by
      intro c mem
      rcases List.mem_append.mp mem with mem | mem
      · exact names c mem
      · exact List.mem_singleton.mp mem ▸ name
    -- what is a directory once it is walked into stays one
    have beyond : ∀ middle : Volume, middle.isDirectory (current ++ [component]) = true →
        (∀ path, volume.isDirectory path = true → middle.isDirectory path = true) →
        (descend (current ++ [component]) rest).Leads middle fun r after =>
          (∀ path, volume.isDirectory path = true → after.isDirectory path = true) ∧
            (r = .ok () → Walkable after current (component :: rest)) := by
      refine fun middle here grown => (ih deeper).mono fun r after met =>
        ⟨fun path h => met.1 path (grown path h), fun fine => ?_⟩
      rw [Walkable.eq_5 _ _ _ _ not_empty not_here not_back]
      exact ⟨met.1 _ here, met.2 fine⟩
    cases stands : volume.node? (current ++ [component]) with
    | none =>
      rw [leads_congr (descend_of_missing name stands), leads_bind]
      refine leads_step (fun counted after alike changed => ?_) fun e after alike => ?_
      · cases located : counted.locate (current ++ [component])
        · rw [located] at changed
          cases changed
        · rw [located] at changed
          cases changed
          obtain rfl := follow_of_names deeper (follow_of_locate located)
          refine beyond _ ?_ fun path h => ?_
          · rw [isDirectory_put_directory]
            exact Bool.or_eq_true_iff.mpr (.inl (decide_eq_true rfl))
          · rw [isDirectory_put_directory, alike.isDirectory]
            exact Bool.or_eq_true_iff.mpr (.inr h)
      · exact ⟨fun path h => (alike.isDirectory path).trans h, fun fine => by cases fine⟩
    | some node =>
      cases node with
      | file data =>
        rw [Leads, descend_of_file name stands]
        exact ⟨fun _ h => h, fun fine => by cases fine⟩
      | directory mode =>
        rw [leads_congr (descend_of_directory name stands)]
        exact beyond volume (isDirectory_iff.mpr ⟨mode, stands⟩) fun _ h => h

theorem descend_of_walkable {components : List String}
    (walkable : Walkable volume current components) :
    descend current components volume = .ok () volume := by
  fun_induction settle current components with
  | case1 current => rfl
  | case2 current rest ih | case3 current rest ih | case4 current rest ih => exact ih walkable
  | case5 current component rest not_empty not_here not_back ih =>
    rw [Walkable.eq_5 _ _ _ _ not_empty not_here not_back] at walkable
    obtain ⟨mode, stands⟩ := isDirectory_iff.mp walkable.1
    rw [descend_of_directory ⟨not_empty, not_here, not_back⟩ stands]
    exact ih walkable.2

/-- A directory that was made can be walked to. -/
theorem makeDirectory_walkable (directory : Path) :
    (makeDirectory directory).Leads volume fun r after =>
      r = .ok () → Walkable after [] directory :=
  (descend_walkable fun _ mem => absurd mem List.not_mem_nil).mono fun _ _ met => met.2

/-- There is nothing to make on the way to a directory that can be walked to. -/
theorem makeDirectory_of_walkable {directory : Path} (walkable : Walkable volume [] directory) :
    makeDirectory directory volume = .ok () volume :=
  descend_of_walkable walkable

end Volume

end PgpCard
