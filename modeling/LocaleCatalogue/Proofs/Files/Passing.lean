import LocaleCatalogue.Proofs.Files.Found
import LocaleCatalogue.Proofs.Path.Lexical

/-!
# Names that pass through directories

A walk along names that all belong to directories follows no link, so its end is found without
asking what comes after it. Such names stay passable when double dots among them are reduced, and
the place they lead to stays the same. It follows that a specifier leads from two paths of one file
to one place, whatever their directories are called.
-/

namespace LocaleCatalogue.Files

open LocaleCatalogue.Path LocaleCatalogue.Spelling

variable {fs : Files}

/-- No place holds a link. -/
def Linkless (fs : Files) : Prop := ∀ place target, fs.entry? place ≠ some (.link target)

theorem linkless_of_entries (h : ∀ e ∈ fs.entries, ∀ target, e.2 ≠ .link target) : fs.Linkless := by
  intro place target hentry
  rcases mem_entries_of_entry? hentry with ⟨-, hdirectory⟩ | hmem
  · cases hdirectory
  · exact h _ hmem target rfl

/-- The names lead down and up from one directory to another, through directories only. -/
inductive Passes (fs : Files) : Place → List Text → Place → Prop
  | done {place : Place} : Passes fs place [] place
  | up {place last : Place} {names : List Text} :
      Passes fs place.dropLast names last → Passes fs place (above :: names) last
  | down {place last : Place} {name : Text} {names : List Text} :
      IsFileName name → size name ≤ nameLimit →
      fs.entry? (place ++ [name]) = some .directory →
      Passes fs (place ++ [name]) names last → Passes fs place (name :: names) last

variable {place middle last : Place} {names more : List Text}
  {follow : Place → Text → List Text → Except Obstacle Place}

theorem Passes.append (h : Passes fs place names middle) (hmore : Passes fs middle more last) :
    Passes fs place (names ++ more) last := by
  induction h with
  | done => exact hmore
  | up _ ih => exact .up (ih hmore)
  | down hname hsize hentry _ ih => exact .down hname hsize hentry (ih hmore)

theorem Passes.exists_middle (h : Passes fs place (names ++ more) last) :
    ∃ middle, Passes fs place names middle ∧ Passes fs middle more last := by
  induction names generalizing place with
  | nil => exact ⟨place, .done, h⟩
  | cons name names ih =>
      cases h with
      | up h =>
          obtain ⟨middle, hfirst, hrest⟩ := ih h
          exact ⟨middle, .up hfirst, hrest⟩
      | down hname hsize hentry h =>
          obtain ⟨middle, hfirst, hrest⟩ := ih h
          exact ⟨middle, .down hname hsize hentry hfirst, hrest⟩

/-- The walk along names that pass goes on where they lead. -/
theorem descend_of_passes (h : Passes fs place names last) :
    fs.descend follow place (names ++ more) = fs.descend follow last more := by
  induction h with
  | done => rfl
  | up _ ih =>
      rw [List.cons_append, descend, if_neg (by decide), if_pos rfl, ih]
  | down hname hsize hentry _ ih =>
      rw [List.cons_append, descend, if_neg hname.isName.2.1, if_neg hname.ne_above,
        if_neg (Nat.not_lt.mpr hsize), hentry, ih]

/-- However many links may be followed, a walk goes down in one way of following them. -/
theorem exists_follow (fs : Files) (links : Nat) : ∃ follow, fs.walk links = fs.descend follow := by
  cases links with
  | zero => exact ⟨_, rfl⟩
  | succ links => exact ⟨_, rfl⟩

theorem walk_of_passes (h : Passes fs place names last) (links : Nat) :
    fs.walk links place (names ++ more) = fs.walk links last more := by
  obtain ⟨follow, hfollow⟩ := exists_follow fs links
  rw [hfollow, descend_of_passes h]

/-- Where there are no links, a walk to a name passes through directories up to this name. -/
theorem exists_passes_of_descend (hlinks : fs.Linkless) {name : Text}
    (hnames : ∀ name ∈ names, IsName name) (hname : IsFileName name)
    (h : fs.descend follow place (names ++ [name]) = .ok last) :
    ∃ directory, Passes fs place names directory ∧ last = directory ++ [name] := by
  induction names generalizing place with
  | nil =>
      refine ⟨place, .done, ?_⟩
      rw [List.nil_append, descend, if_neg hname.isName.2.1, if_neg hname.ne_above] at h
      split at h
      · cases h
      · split at h
        · cases h
        · cases h
          rfl
        · cases h
          rfl
        next target hentry => exact absurd hentry (hlinks _ target)
  | cons first names ih =>
      have hfirst := hnames first List.mem_cons_self
      have hrest := fun other hother => hnames other (List.mem_cons_of_mem first hother)
      rw [List.cons_append, descend, if_neg hfirst.2.1] at h
      by_cases habove : first = above
      · rw [if_pos habove] at h
        obtain ⟨directory, hpasses, hlast⟩ := ih hrest h
        exact ⟨directory, habove ▸ .up hpasses, hlast⟩
      · rw [if_neg habove] at h
        split at h
        · cases h
        next hsize =>
          split at h
          · cases h
          · rw [if_neg (by simp)] at h
            cases h
          next hentry =>
            obtain ⟨directory, hpasses, hlast⟩ := ih hrest h
            exact ⟨directory,
              .down ⟨hfirst, habove⟩ (Nat.not_lt.mp hsize) hentry hpasses, hlast⟩
          next target hentry => exact absurd hentry (hlinks _ target)

/-! ## Reduced names pass too -/

variable {anchored : Bool} {reversed : List Text} {start : Place}

theorem passes_stepUp (hanchored : anchored = true → start = [])
    (h : Passes fs start reversed.reverse place) :
    Passes fs start (stepUp anchored reversed).reverse place.dropLast := by
  cases reversed with
  | nil =>
      cases h
      rw [stepUp_nil]
      by_cases ha : anchored = true
      · rw [if_pos ha, hanchored ha]
        exact .done
      · rw [if_neg ha]
        exact .up .done
  | cons name rest =>
      by_cases habove : name = above
      · subst habove
        rw [stepUp_above, List.reverse_cons]
        exact h.append (.up .done)
      · rw [stepUp_cons habove]
        rw [List.reverse_cons] at h
        obtain ⟨middle, hfirst, hlast⟩ := h.exists_middle
        cases hlast with
        | up _ => exact absurd rfl habove
        | down _ _ _ hdone =>
            cases hdone
            rwa [List.dropLast_concat]

theorem passes_iterate_stepUp (hanchored : anchored = true → start = [])
    (h : Passes fs start reversed.reverse place) (ups : Nat) :
    Passes fs start ((stepUp anchored)^[ups] reversed).reverse (List.dropLast^[ups] place) := by
  induction ups with
  | zero => exact h
  | succ ups ih =>
      rw [Function.iterate_succ_apply', Function.iterate_succ_apply']
      exact passes_stepUp hanchored ih

theorem passes_foldl (hanchored : anchored = true → start = [])
    (h : Passes fs start reversed.reverse place) (hnames : Passes fs place names last) :
    Passes fs start (names.foldl (reduceStep anchored) reversed).reverse last := by
  induction hnames generalizing reversed with
  | done => exact h
  | up _ ih => exact ih (passes_stepUp hanchored h)
  | down hname hsize hentry _ ih =>
      apply ih
      rw [reduceStep_of_isFileName hname, List.reverse_cons]
      exact h.append (.down hname hsize hentry .done)

/-! ## Spellings that no file system takes -/

/-- A code point that no name can hold. -/
def isForbidden (c : CodePoint) : Bool := (c.isSurrogate && !isOctet c) || c = 0

/-- Every code point of the names can stand in a name. -/
def Permitted (names : List Text) : Prop := ∀ name ∈ names, ∀ c ∈ name, isForbidden c = false

theorem permitted_append :
    Permitted (names ++ more) ↔ Permitted names ∧ Permitted more := by
  simp only [Permitted, List.mem_append, or_imp, forall_and]

theorem surrogateFault?_eq_none_iff {position : Nat} {t : Text} :
    surrogateFault? position t = none ↔ ∀ c ∈ t, ¬ (c.isSurrogate && !isOctet c) = true := by
  induction t generalizing position with
  | nil => simp only [surrogateFault?, List.not_mem_nil, false_implies, implies_true]
  | cons c t ih =>
      rw [surrogateFault?, List.forall_mem_cons, ← @ih (position + 1)]
      by_cases hc : (c.isSurrogate && !isOctet c) = true
      · rw [if_pos hc]
        exact iff_of_false (fun h => nomatch h) fun h => h.1 hc
      · rw [if_neg hc, and_iff_right hc]

theorem isAbsence_of_surrogateFault? {position : Nat} {t : Text} {fault : Fault}
    (h : surrogateFault? position t = some fault) : fault.isAbsence = true := by
  induction t generalizing position with
  | nil => cases h
  | cons c t ih =>
      rw [surrogateFault?] at h
      split at h
      · cases h
        rfl
      · exact ih h

/-- A spelling with a forbidden code point leads to nothing. -/
theorem spellingFault?_of_forbidden {t : Text} (h : ∃ c ∈ t, isForbidden c = true) :
    ∃ fault, spellingFault? t = some fault ∧ fault.isAbsence = true := by
  rw [spellingFault?]
  cases hsurrogate : surrogateFault? 0 t with
  | some fault => exact ⟨fault, rfl, isAbsence_of_surrogateFault? hsurrogate⟩
  | none =>
      obtain ⟨c, hc, hforbidden⟩ := h
      have hzero : c = 0 := by
        simpa [surrogateFault?_eq_none_iff.mp hsurrogate c hc, isForbidden] using hforbidden
      have hcontains : t.contains 0 = true := List.contains_iff_mem.mpr (hzero ▸ hc)
      exact ⟨.embeddedNull, if_pos hcontains, rfl⟩

/-- Without forbidden code points a spelling can only be too long. -/
theorem spellingFault?_of_permitted {t : Text} (h : ∀ c ∈ t, isForbidden c = false) :
    spellingFault? t = if pathLimit < size t then some (.obstacle .nameTooLong) else none := by
  have hpermitted : ∀ c ∈ t, ¬ (c.isSurrogate && !isOctet c) = true ∧ c ≠ 0 := by
    intro c hc
    simpa [isForbidden] using h c hc
  have hsurrogate : surrogateFault? 0 t = none :=
    surrogateFault?_eq_none_iff.mpr fun c hc => (hpermitted c hc).1
  have hcontains : ¬ t.contains 0 = true := fun hmem =>
    (hpermitted 0 (List.contains_iff_mem.mp hmem)).2 rfl
  rw [spellingFault?, hsurrogate]
  dsimp only
  rw [if_neg hcontains]

theorem permitted_of_spellingFault? {t : Text} (h : spellingFault? t = none) :
    ∀ c ∈ t, isForbidden c = false := by
  intro c hc
  by_contra hforbidden
  obtain ⟨fault, hfault, -⟩ := spellingFault?_of_forbidden ⟨c, hc, by simpa using hforbidden⟩
  rw [h] at hfault
  cases hfault

theorem isForbidden_slash : isForbidden slash = false := by decide

theorem isForbidden_dot : isForbidden dot = false := by decide

theorem mem_toText_of_mem {path : Path} {name : Text} (hname : name ∈ path.names) {c : CodePoint}
    (hc : c ∈ name) : c ∈ path.toText := by
  obtain ⟨anchor, names⟩ := path
  rcases List.eq_nil_or_concat names with rfl | ⟨names, last, rfl⟩
  · cases hname
  · rw [List.concat_eq_append] at hname ⊢
    rw [toText_concat]
    exact List.mem_append_right _ (Text.mem_join_of_mem hname hc)

/-- The anchor, the slashes and the dots of a spelling are permitted. -/
theorem permitted_toText {path : Path} (h : Permitted path.names) :
    ∀ c ∈ path.toText, isForbidden c = false := by
  obtain ⟨anchor, names⟩ := path
  intro c hc
  rcases List.eq_nil_or_concat names with rfl | ⟨names, last, rfl⟩
  · have hmark : c = slash ∨ c = dot := by
      cases anchor <;> simp [toText, Anchor.text, Text.join, here] at hc <;> simp [hc, slash]
    rcases hmark with rfl | rfl
    · exact isForbidden_slash
    · exact isForbidden_dot
  · rw [List.concat_eq_append] at h hc
    rw [toText_concat] at hc
    rcases List.mem_append.mp hc with hc | hc
    · have hslash : c = slash := by
        cases anchor <;> simp [Anchor.text] at hc <;> simp [hc, slash]
      exact hslash ▸ isForbidden_slash
    · rcases Text.mem_join hc with hslash | ⟨name, hname, hc⟩
      · rw [List.mem_singleton.mp hslash]
        exact isForbidden_slash
      · exact h name hname c hc

/-! ## Probing -/

/-- What a probe finds that goes along names from a directory. -/
def probe (fs : Files) (directory : Place) (names : List Text) : Except Fault (Option fs.Found) :=
  match fs.walk linkLimit directory names with
  | .ok place => .ok (fs.fileAt? place)
  | .error cause => if (Fault.obstacle cause).isAbsence then .ok none else .error (.obstacle cause)

theorem regular?_of_forbidden {path : Path} (h : ¬ Permitted path.names) :
    fs.regular? path = .ok none := by
  have hforbidden : ∃ c ∈ path.toText, isForbidden c = true := by
    simp only [Permitted, not_forall, Bool.not_eq_false] at h
    obtain ⟨name, hname, c, hc, hforbidden⟩ := h
    exact ⟨c, mem_toText_of_mem hname hc, hforbidden⟩
  obtain ⟨fault, hfault, habsence⟩ := spellingFault?_of_forbidden hforbidden
  rw [regular?, reach, locate, hfault]
  simp only [habsence, if_true]
  rfl

/-- The spelling of a path is longer than the file system takes. -/
def Overlong (path : Path) : Prop := pathLimit < size path.toText

/-- A probe has this answer, or the file system does not take the spelling. -/
def Answers (fs : Files) (path : Path) (found : Except Fault (Option fs.Found)) : Prop :=
  fs.regular? path = found ∨ Overlong path ∧ fs.regular? path = .error (.obstacle .nameTooLong)

/-- A path with permitted names finds what its names find, unless its spelling is too long. -/
theorem answers_of_permitted {path : Path} (h : Permitted path.names) :
    fs.Answers path (fs.probe (fs.origin path) path.names) := by
  rw [Answers, regular?, reach, locate, spellingFault?_of_permitted (permitted_toText h)]
  by_cases hlong : pathLimit < size path.toText
  · right
    rw [if_pos hlong]
    exact ⟨hlong, rfl⟩
  · left
    rw [if_neg hlong, probe]
    cases hwalk : fs.walk linkLimit (fs.origin path) path.names with
    | ok place => rfl
    | error cause =>
        dsimp only
        split <;> rfl

/-! ## Specifiers -/

theorem origin_eq (path : Path) :
    fs.origin path = if path.anchor = .relative then fs.working else [] := by
  rw [origin]
  cases path.anchor <;> rfl

theorem origin_of_anchored {path : Text} (h : decide (anchorOf path ≠ .relative) = true) :
    fs.origin (ofText path) = [] := by
  rw [origin_eq]
  exact if_neg (of_decide_eq_true h)

/-- A path that ends in a name and leads to a place leads through the directory of the place. -/
theorem exists_directory (hlinks : fs.Linkless) {path : Text} (hpath : EndsInName path)
    {place : Place} (hplace : fs.locate (ofText path) = .ok place) :
    ∃ directory, place = directory ++ [lastPiece path] ∧ Permitted (ofText (front path)).names ∧
      Passes fs (fs.origin (ofText path)) (reducedDirectory path).reverse directory := by
  rw [locate] at hplace
  split at hplace
  · cases hplace
  next hnone =>
    split at hplace
    next last hwalk =>
      cases hplace
      obtain ⟨follow, hfollow⟩ := exists_follow fs linkLimit
      rw [hfollow, hpath.names_eq] at hwalk
      obtain ⟨directory, hpasses, hlast⟩ :=
        exists_passes_of_descend hlinks (plain_ofText _) (endsInName_iff.mp hpath) hwalk
      refine ⟨directory, hlast, ?_, passes_foldl origin_of_anchored .done hpasses⟩
      intro name hname c hc
      apply permitted_of_spellingFault? hnone c
      refine mem_toText_of_mem ?_ hc
      rw [hpath.names_eq]
      exact List.mem_append_left _ hname
    · cases hplace

theorem isFileName_append {name ending : Text} (hname : IsFileName name)
    (hending : ending ∈ candidateSuffixes) : IsFileName (name ++ ending) := by
  have hcases : ending = [] ∨ slash ∉ ending ∧ ending.length = 3 := by
    have hall : ∀ ending ∈ candidateSuffixes, ending = [] ∨ slash ∉ ending ∧ ending.length = 3 := by
      decide
    exact hall ending hending
  rcases hcases with rfl | ⟨hslash, hlength⟩
  · rwa [List.append_nil]
  · -- What is longer than two code points is no dots.
    have hlong : ∀ dots : Text, dots.length ≤ 2 → name ++ ending ≠ dots := by
      rintro dots hdots rfl
      rw [List.length_append] at hdots
      omega
    refine ⟨⟨hlong [] (by decide), hlong here (by decide), ?_⟩, hlong above (by decide)⟩
    rw [List.mem_append, not_or]
    exact ⟨hname.isName.2.2, hslash⟩

theorem probe_of_passes (h : Passes fs place names last) :
    fs.probe place (names ++ more) = fs.probe last more := by
  rw [probe, probe, walk_of_passes h]

section Specifier

variable {specifier : Text} (hrelative : specifier.head? ≠ some slash)
  (hspecifier : EndsInName specifier)

include hrelative hspecifier

/-- What a candidate for a specifier leads to is the same for all paths to one place, except that it
may be out of reach because the spelling is too long. -/
theorem exists_probe (hlinks : fs.Linkless) (place : Place) {ending : Text}
    (hending : ending ∈ candidateSuffixes) :
    ∃ found : Except Fault (Option fs.Found), ∀ path, EndsInName path →
      fs.locate (ofText path) = .ok place →
        fs.Answers (ofText (specifierBase path specifier ++ ending)) found := by
  obtain ⟨ups, downs, -, hcandidate⟩ := exists_candidate hrelative hspecifier
  have hname := isFileName_append (endsInName_iff.mp hspecifier) hending
  by_cases hpermitted : Permitted (downs ++ [lastPiece specifier ++ ending])
  · refine ⟨fs.probe (List.dropLast^[ups] place.dropLast)
      (downs ++ [lastPiece specifier ++ ending]), ?_⟩
    intro path hpath hplace
    obtain ⟨anchor, hanchor, heq⟩ := hcandidate path ending hpath hname
    obtain ⟨directory, rfl, hfront, hpasses⟩ := exists_directory hlinks hpath hplace
    have hup := passes_iterate_stepUp origin_of_anchored hpasses ups
    have habove : ∀ c ∈ above, isForbidden c = false := by
      simp only [above, List.mem_cons, List.not_mem_nil, or_false, or_self, forall_eq]
      exact isForbidden_dot
    have hreduced : Permitted ((stepUp (anchorOf path ≠ .relative))^[ups] (reducedDirectory path)) :=
      forall_mem_stepUp habove (forall_mem_foldl hfront (by simp)) ups
    have hall := permitted_append.mpr
      ⟨fun name hname => hreduced name (List.mem_reverse.mp hname), hpermitted⟩
    have horigin : ∀ names, fs.origin ⟨anchor, names⟩ = fs.origin (ofText path) := by
      intro names
      rw [origin_eq, origin_eq]
      exact if_congr hanchor rfl rfl
    rw [heq, List.append_assoc, List.dropLast_concat]
    have hprobe := @answers_of_permitted fs ⟨anchor, _⟩ hall
    rwa [horigin, probe_of_passes hup] at hprobe
  · refine ⟨.ok none, ?_⟩
    intro path hpath hplace
    obtain ⟨anchor, hanchor, heq⟩ := hcandidate path ending hpath hname
    left
    rw [heq]
    apply regular?_of_forbidden
    rw [List.append_assoc, permitted_append]
    exact fun h => hpermitted h.2

/-- The file that a specifier leads to is the same for all paths to one place. -/
theorem exists_first (hlinks : fs.Linkless) (place : Place) {endings : List Text}
    (hendings : endings ⊆ candidateSuffixes) :
    ∃ file? : Option fs.Found, ∀ path, EndsInName path → fs.locate (ofText path) = .ok place →
      ∀ target?, fs.firstRegular?
          (endings.map fun ending => ofText (specifierBase path specifier ++ ending)) = .ok target? →
        target?.map Target.file = file? := by
  induction endings with
  | nil =>
      refine ⟨none, ?_⟩
      rintro path - - target? ⟨⟩
      rfl
  | cons ending endings ih =>
      obtain ⟨hending, hrest⟩ := List.cons_subset.mp hendings
      obtain ⟨found, hfound⟩ := exists_probe hrelative hspecifier hlinks place hending
      obtain ⟨file?, hfile⟩ := ih hrest
      -- Paths whose first candidate is out of reach have no target at all.
      have hfirst : ∀ path, EndsInName path → fs.locate (ofText path) = .ok place →
          ∀ target?, fs.firstRegular? ((ending :: endings).map
              fun ending => ofText (specifierBase path specifier ++ ending)) = .ok target? →
            fs.regular? (ofText (specifierBase path specifier ++ ending)) = found := by
        intro path hpath hplace target? htarget
        rcases hfound path hpath hplace with hsame | ⟨-, hfault⟩
        · exact hsame
        · rw [List.map_cons, firstRegular?, hfault] at htarget
          cases htarget
      refine ⟨(found.toOption.getD none).or file?, ?_⟩
      intro path hpath hplace target? htarget
      have hregular := hfirst path hpath hplace target? htarget
      rw [List.map_cons, firstRegular?, hregular] at htarget
      cases found with
      | error fault => cases htarget
      | ok found =>
          cases found with
          | some file =>
              cases htarget
              rfl
          | none => exact hfile path hpath hplace target? htarget

/-- Candidates end in a name. -/
theorem endsInName_candidate {path : Text} (hpath : EndsInName path) {candidate : Path}
    (h : candidate ∈ candidatePaths (specifierBase path specifier)) :
    EndsInName candidate.toText := by
  obtain ⟨ending, hending, rfl⟩ := List.mem_map.mp h
  obtain ⟨ups, downs, -, hcandidate⟩ := exists_candidate hrelative hspecifier
  have hname := isFileName_append (endsInName_iff.mp hspecifier) hending
  obtain ⟨anchor, -, heq⟩ := hcandidate path ending hpath hname
  rw [heq]
  exact endsInName_toText _ hname

end Specifier

end LocaleCatalogue.Files
