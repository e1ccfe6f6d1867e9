import LocaleCatalogue.Proofs.Settings.Checks
import LocaleCatalogue.Proofs.Toml.Documents

/-!
# How each field is resolved

The layers are joined entry by entry, but what comes out for a field depends on that field alone: it
is what the highest of the layers says that says anything about it. Only the caller can speak about
the verbosity in another name, by one of two switches. A file says the same whether its settings
stand at the top or in the section of the tool.
-/

namespace LocaleCatalogue

/-- Whether a value is not left open. -/
def Value.isSet : Value → Bool
  | .null => false
  | _ => true

namespace Settings

variable {s : Sources} {settings : Settings} {layer lower upper : Layer} {name switch : Text}
  {diagnosis : List Char → Text}

/-! ### Layers -/

theorem find?_overlay (hupper : (upper.map Prod.fst).Nodup) :
    Entries.find? (overlay lower upper) name =
      (Entries.find? upper name).or (Entries.find? lower name) := by
  induction upper generalizing lower with
  | nil => rfl
  | cons e upper ih =>
      rw [List.map_cons, List.nodup_cons] at hupper
      rw [overlay, List.foldl_cons]
      refine (ih hupper.2).trans ?_
      rw [Entries.find?_put, Entries.find?_cons]
      by_cases hname : e.1 = name
      · -- an entry is not put again, because the upper layer names it once
        have hnone : Entries.find? upper name = none := Entries.find?_eq_none_iff.mpr (hname ▸ hupper.1)
        rw [if_pos hname, if_pos hname, hnone]
        rfl
      · rw [if_neg hname, if_neg hname]

/-- What a layer that was had says about a field. -/
def stated? (layer : Except LoadFault Layer) (field : Field) : Option Value :=
  layer.toOption.bind fun entries => Entries.find? entries field.name

/-! ### The environment -/

/-- The word that the environment has for a field. -/
def wordOf? (environment : List (Text × Text)) (field : Field) : Option Text :=
  (environment.find? fun entry => entry.1 = field.variable).map Prod.snd

/-- What the environment says about a field. -/
def spoken? (environment : List (Text × Text)) (field : Field) : Option Value :=
  (wordOf? environment field).bind fun word => (field.reading.read word).toOption.join

theorem fromEnvironmentOf_cons (environment : List (Text × Text)) (field : Field) (rest : List Field) :
    fromEnvironmentOf environment (field :: rest) =
      match wordOf? environment field with
      | none => fromEnvironmentOf environment rest
      | some word =>
        match field.reading.read word with
        | .error fault => .error (.invalidSetting field.variable (.text word) fault.message)
        | .ok found =>
          (fromEnvironmentOf environment rest).map fun entries =>
            (found.map fun v => (field.name, v)).toList ++ entries := by
  rw [fromEnvironmentOf, wordOf?]
  cases environment.find? fun entry => entry.1 = field.variable <;> rfl

theorem read_of_reading_nothing {field : Field} (h : field.reading = .nothing) (word : Text) :
    field.reading.read word = .ok none := by
  rw [h, Reading.read]

/-- Words for fields that cannot be written in one word are passed over. -/
theorem fromEnvironmentOf_congr {environment environment' : List (Text × Text)}
    (h : ∀ field : Field, field.reading ≠ .nothing →
      wordOf? environment' field = wordOf? environment field) (fields : List Field) :
    fromEnvironmentOf environment' fields = fromEnvironmentOf environment fields := by
  have hskip (environment : List (Text × Text)) {field : Field} (hfield : field.reading = .nothing)
      (rest : List Field) :
      fromEnvironmentOf environment (field :: rest) = fromEnvironmentOf environment rest := by
    rw [fromEnvironmentOf_cons]
    cases wordOf? environment field with
    | none => rfl
    | some word =>
        dsimp only
        rw [read_of_reading_nothing hfield]
        cases fromEnvironmentOf environment rest <;> rfl
  induction fields with
  | nil => rfl
  | cons field rest ih =>
      by_cases hfield : field.reading = .nothing
      · rw [hskip _ hfield, hskip _ hfield, ih]
      · rw [fromEnvironmentOf_cons, fromEnvironmentOf_cons, h field hfield, ih]

/-- A first field adds what the environment says about it to what it says about the others. -/
theorem exists_of_fromEnvironmentOf_cons {environment : List (Text × Text)} {field : Field}
    {rest : List Field} {entries : Layer}
    (h : fromEnvironmentOf environment (field :: rest) = .ok entries) :
    ∃ others, fromEnvironmentOf environment rest = .ok others ∧
      entries = ((spoken? environment field).map fun v => (field.name, v)).toList ++ others := by
  rw [fromEnvironmentOf_cons] at h
  rw [spoken?]
  cases hword : wordOf? environment field with
  | none =>
      rw [hword] at h
      exact ⟨entries, h, rfl⟩
  | some word =>
      rw [hword] at h
      dsimp only at h
      cases hread : field.reading.read word with
      | error fault =>
          rw [hread] at h
          cases h
      | ok found =>
          rw [hread] at h
          obtain ⟨others, hothers, rfl⟩ := map_eq_ok_iff.mp h
          rw [Option.bind_some, hread]
          exact ⟨others, hothers, rfl⟩

/-- The layer of the environment names fields in their order, with what it says about each. -/
theorem fromEnvironmentOf_spec {environment : List (Text × Text)} {fields : List Field} {entries : Layer}
    (hfields : fields.Nodup) (h : fromEnvironmentOf environment fields = .ok entries) :
    (entries.map Prod.fst).Sublist (fields.map Field.name) ∧
      ∀ field ∈ fields, Entries.find? entries field.name = spoken? environment field := by
  induction fields generalizing entries with
  | nil =>
      cases h
      exact ⟨List.Sublist.slnil, fun _ hfield => absurd hfield List.not_mem_nil⟩
  | cons field rest ih =>
      obtain ⟨hnot, hrest⟩ := List.nodup_cons.mp hfields
      obtain ⟨others, hothers, rfl⟩ := exists_of_fromEnvironmentOf_cons h
      obtain ⟨hsub, hsaid⟩ := ih hrest hothers
      -- the fields that follow leave the name of this one free
      have hfree : Entries.find? others field.name = none := by
        refine Entries.find?_eq_none_iff.mpr fun hmem => hnot ?_
        obtain ⟨other, hother, hname⟩ := List.mem_map.mp (hsub.subset hmem)
        exact Field.name_injective hname ▸ hother
      have hne {other : Field} (h : other ∈ rest) : field.name ≠ other.name := by
        intro hname
        exact hnot (Field.name_injective hname ▸ h)
      cases hspoken : spoken? environment field with
      | none =>
          refine ⟨hsub.cons _, fun other hmem => ?_⟩
          rcases List.mem_cons.mp hmem with rfl | hmem
          · exact hfree.trans hspoken.symm
          · exact hsaid other hmem
      | some v =>
          refine ⟨hsub.cons_cons _, fun other hmem => ?_⟩
          simp only [Option.map_some, Option.toList_some, List.singleton_append, Entries.find?_cons]
          rcases List.mem_cons.mp hmem with rfl | hmem
          · rw [if_pos rfl, hspoken]
          · rw [if_neg (hne hmem), hsaid other hmem]

/-! ### The caller -/

/-- Whether a layer turns a switch on. -/
def isOn (layer : Layer) (switch : Text) : Bool :=
  (Entries.find? layer switch).any fun v => !v.isFalsy

/-- What the caller says about a field. -/
def asked? (overrides : Layer) (field : Field) : Option Value :=
  if field = .verbosity ∧ isOn overrides quietName then some (.text Verbosity.quiet.name)
  else if field = .verbosity ∧ isOn overrides verboseName then some (.text Verbosity.verbose.name)
  else (Entries.find? overrides field.name).filter Value.isSet

theorem nodup_flip {verbosity : Verbosity} (hlayer : (layer.map Prod.fst).Nodup) :
    ((flip switch verbosity layer).map Prod.fst).Nodup := by
  have hrest := Entries.nodup_filter (fun e => decide (e.1 ≠ switch)) hlayer
  unfold flip
  dsimp only
  split
  next => exact hrest
  next =>
    split
    next => exact hrest
    next => exact Entries.nodup_put hrest

theorem find?_flip {verbosity : Verbosity} (hlayer : (layer.map Prod.fst).Nodup) (hname : name ≠ switch) :
    Entries.find? (flip switch verbosity layer) name =
      if name = Field.verbosity.name ∧ isOn layer switch then some (.text verbosity.name)
      else Entries.find? layer name := by
  have hrest : Entries.find? (layer.filter fun e => decide (e.1 ≠ switch)) name =
      Entries.find? layer name := by
    rw [Entries.find?_filter _ hlayer]
    cases Entries.find? layer name <;> simp [hname]
  unfold flip isOn
  dsimp only
  cases hswitch : Entries.find? layer switch with
  | none => simpa using hrest
  | some v =>
      cases hoff : v.isFalsy with
      | true => simpa [hoff] using hrest
      | false =>
          simp only [hoff, Bool.false_eq_true, if_false, Entries.find?_put, hrest]
          simp [hoff, eq_comm]

theorem isOn_flip {other : Text} {verbosity : Verbosity} (hlayer : (layer.map Prod.fst).Nodup)
    (hother : other ≠ switch) (hname : other ≠ Field.verbosity.name) :
    isOn (flip switch verbosity layer) other = isOn layer other := by
  rw [isOn, find?_flip hlayer hother, if_neg fun h => hname h.1, isOn]

theorem callerLayer_eq (layer : Layer) :
    callerLayer layer =
      (flip quietName .quiet (flip verboseName .verbose layer)).filter fun e => e.2.isSet := rfl

theorem nodup_callerLayer (hlayer : (layer.map Prod.fst).Nodup) :
    ((callerLayer layer).map Prod.fst).Nodup := by
  rw [callerLayer_eq]
  exact Entries.nodup_filter _ (nodup_flip (nodup_flip hlayer))

theorem find?_callerLayer (hlayer : (layer.map Prod.fst).Nodup) (field : Field) :
    Entries.find? (callerLayer layer) field.name = asked? layer field := by
  have hquiet : field.name ≠ quietName := by cases field <;> decide +kernel
  have hverbose : field.name ≠ verboseName := by cases field <;> decide +kernel
  have hfield : field.name = Field.verbosity.name ↔ field = .verbosity := ⟨Field.name_injective, congrArg _⟩
  have hflip : ((flip verboseName .verbose layer).map Prod.fst).Nodup := nodup_flip hlayer
  -- the switch for quiet is looked at last, so it beats the other one
  rw [callerLayer_eq, Entries.find?_filter _ (nodup_flip hflip), find?_flip hflip hquiet,
    find?_flip hlayer hverbose, isOn_flip hlayer (by decide +kernel) (by decide +kernel), asked?]
  simp only [hfield]
  split
  next => rfl
  next =>
    split
    next => rfl
    next => rfl

/-! ### Files -/

theorem properTable_sectionOf {document : Toml.Table} (hdocument : Toml.ProperTable document)
    (h : sectionOf document = .ok layer) : Toml.ProperTable layer := by
  unfold sectionOf at h
  dsimp only at h
  split at h
  next =>
    cases h
    exact hdocument.filter _
  next tools htools =>
    split at h
    next entries hentries =>
      cases h
      exact .of_value ((Toml.ProperTable.of_value (hdocument.find? htools)).find? hentries)
    next =>
      cases h
      exact hdocument.filter _
  next => cases h

theorem fromFile_of_decode {fs : Files} {path : Path} {file : fs.Found} {text : List Char}
    (haccess : fs.access path = .ok file) (hdecode : Utf8.decode file.content = .ok text) :
    fromFile diagnosis fs path =
      match Toml.read text with
      | .error .malformed => .error (.notADocument path (diagnosis text))
      | .error (.integer cause) => .error (.integer cause)
      | .ok document => sectionOf document := by
  rewrite [fromFile, haccess]
  dsimp only
  rewrite [hdecode]
  rfl

theorem properTable_fromFile {fs : Files} {path : Path} (h : fromFile diagnosis fs path = .ok layer) :
    Toml.ProperTable layer := by
  unfold fromFile at h
  split at h
  next => cases h
  next =>
    split at h
    next => cases h
    next =>
      split at h
      next => cases h
      next => cases h
      next hread => exact properTable_sectionOf (Toml.properTable_of_read hread) h

theorem properTable_projectLayer {fs : Files} (h : projectLayer diagnosis fs = .ok layer) :
    Toml.ProperTable layer := by
  obtain ⟨found, -, h⟩ := bind_eq_ok_iff.mp h
  split at h
  next => exact properTable_fromFile h
  next =>
    cases h
    exact .empty

theorem properTable_chosenLayer {fs : Files} {chosen : Option Text}
    (h : chosenLayer diagnosis fs chosen = .ok layer) : Toml.ProperTable layer := by
  cases chosen with
  | none =>
      cases h
      exact .empty
  | some spelling =>
      obtain ⟨found, -, h⟩ := bind_eq_ok_iff.mp h
      split at h
      next => exact properTable_fromFile h
      next => cases h

/-! ### All layers -/

/-- The value of a field: what the caller, the environment, the file that was asked for, or the file
of the project says about it, or else the usual one. -/
def Sources.resolved (s : Sources) (field : Field) : Value :=
  ((asked? s.overrides field).or <| (spoken? s.environment field).or <|
    (stated? (chosenLayer s.diagnosis s.files s.chosenFile) field).or
      (stated? (projectLayer s.diagnosis s.files) field)).getD field.default

/-- What the merged layers give for a field. -/
theorem given_merged {entries : Layer} (hoverrides : (s.overrides.map Prod.fst).Nodup)
    (h : merged s = .ok entries) (field : Field) : given entries field = s.resolved field := by
  obtain ⟨project, hproject, h⟩ := bind_eq_ok_iff.mp h
  obtain ⟨chosen, hchosen, h⟩ := bind_eq_ok_iff.mp h
  split at h
  next => cases h
  next environment henvironment =>
    cases h
    obtain ⟨hnames, hspoken⟩ := fromEnvironmentOf_spec (by decide) henvironment
    have hfields : (fields.map Field.name).Nodup := by decide +kernel
    rw [given, find?_overlay (nodup_callerLayer hoverrides), find?_overlay (hfields.sublist hnames),
      find?_overlay (properTable_chosenLayer hchosen).names, find?_callerLayer hoverrides,
      hspoken field field.mem_fields, Sources.resolved, stated?, stated?, hproject, hchosen]
    rfl

theorem load_eq (s : Sources) :
    load s = merged s >>= fun entries => (check entries).mapError fun fault => .about fault.told := by
  rw [load]
  congr 1
  funext entries
  rw [ofEntries]
  cases check entries <;> rfl

theorem load_eq_ok_iff :
    load s = .ok settings ↔ ∃ entries, merged s = .ok entries ∧ check entries = .ok settings := by
  rw [load_eq, bind_eq_ok_iff]
  refine exists_congr fun entries => and_congr_right fun _ => ?_
  cases check entries <;> simp [Except.mapError]

end Settings

end LocaleCatalogue
