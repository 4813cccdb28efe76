import Rubric.Proofs.Settings.Scan
import Rubric.Proofs.Settings.Sources

/-! Unknown keys in files that can be taken line by line. In strict mode the outermost keys and
tables that are no settings are refused, each one once. A key that is assigned on a line of its own
comes with the number of that line, but a table that only a header gives, and a key inside a value,
come with zero. -/
namespace Rubric.Settings

open Toml (Row Rows Yields IsBare places)

def schema : List (List Text) :=
  [] :: (names.map fun name => [name]) ++ reportNames.map fun name => ["report".toList, name]

/-- The schema has all of a path but the path itself. -/
def Outermost (path : List Text) : Prop :=
  path ∉ schema ∧ ∀ above, above <+: path → above ≠ path → above ∈ schema

/-- The lines of a file give something at a path that leaves the schema with its last name. -/
def Stray (rows : List Row) (path : List Text) : Prop :=
  Yields rows path ∧ Outermost path

/-- The value is a moment, which a file can have in the place of the report. -/
def isMoment : Toml.Value → Bool
  | .moment _ => true
  | _ => false

/-- The settings that the table of a file gives are of the right kind. -/
def WellTyped (fields : Toml.Table) : Prop :=
  (Layer.ofTable? .file fields).isSome ∧ (fields.find? "report".toList).any isMoment = false

instance (fields : Toml.Table) : Decidable (WellTyped fields) :=
  inferInstanceAs (Decidable (_ ∧ _))

def strayPathsIn (field : Text × Toml.Value) : List (List Text) :=
  if field.1 = "report".toList then
    match field.2 with
    | .table inner =>
      (inner.filter fun field => !reportNames.contains field.1).map fun field =>
        ["report".toList, field.1]
    | _ => []
  else if names.contains field.1 then []
  else [[field.1]]

/-- The outermost keys of a table that are no settings, as paths. -/
def strayPaths (fields : Toml.Table) : List (List Text) :=
  fields.flatMap strayPathsIn

variable {name leaf content : Text} {fields inner entries : Toml.Table} {p above : List Text}
  {v : Toml.Value} {rows : List Row}

section Schema

/-- The schema are the top level, its names and the names in a report. -/
theorem mem_schema_iff : p ∈ schema ↔ p = [] ∨ (∃ name ∈ names, p = [name]) ∨
    ∃ name ∈ reportNames, p = ["report".toList, name] := by
  simp [schema, eq_comm]

theorem report_mem_names : "report".toList ∈ names := by
  decide

theorem outermost_singleton_iff : Outermost [name] ↔ name ∉ names := by
  simp [Outermost, mem_schema_iff, List.prefix_cons_iff]

theorem outermost_pair_iff : Outermost ["report".toList, name] ↔ name ∉ reportNames := by
  refine ⟨fun h hName => h.1 (mem_schema_iff.mpr (.inr (.inr ⟨name, hName, rfl⟩))),
    fun hName => ⟨fun hMem => ?_, fun above hAbove hNe => ?_⟩⟩
  · obtain hNil | ⟨other, -, hSame⟩ | ⟨other, hOther, hSame⟩ := mem_schema_iff.mp hMem
    · cases hNil
    · cases hSame
    · rw [(List.cons.inj (List.cons.inj hSame).2).1] at hName
      exact hName hOther
  · rw [mem_schema_iff]
    obtain rfl | ⟨rest, rfl, hRest⟩ := List.prefix_cons_iff.mp hAbove
    · exact .inl rfl
    · obtain rfl | ⟨tail, rfl, hTail⟩ := List.prefix_cons_iff.mp hRest
      · exact .inr (.inl ⟨_, report_mem_names, rfl⟩)
      · rw [List.prefix_nil.mp hTail] at hNe
        exact absurd rfl hNe

theorem optional_eq_none {α : Type} {take : Toml.Value → Option α} {key : String}
    (hTake : take v = none) (hFound : fields.find? key.toList = some v) :
    optional take fields key = none := by
  simp [optional, hFound, hTake]

/-- No setting is a table, but for the report. -/
theorem WellTyped.eq_report (h : WellTyped fields) (hName : name ∈ names)
    (hFound : fields.find? name = some (.table inner)) : name = "report".toList := by
  obtain ⟨layer, hLayer⟩ := Option.isSome_iff_exists.mp h.1
  obtain ⟨rules, hRules, hLayer⟩ := Option.bind_eq_some_iff.mp hLayer
  obtain ⟨encoding, hEncoding, -⟩ := Option.bind_eq_some_iff.mp hLayer
  obtain rfl | rfl | rfl : name = "rules".toList ∨ name = "encoding".toList ∨
      name = "report".toList := by simpa [names] using hName
  · rw [optional_eq_none rfl hFound] at hRules
    cases hRules
  · rw [optional_eq_none rfl hFound] at hEncoding
    cases hEncoding
  · rfl

/-- No setting in a well typed report is a table, so nothing unknown lies deeper. -/
theorem WellTyped.not_table (h : WellTyped fields)
    (hReport : fields.find? "report".toList = some (.table inner)) (hName : name ∈ reportNames) :
    inner.find? name ≠ some (.table entries) := by
  intro hFound
  obtain ⟨layer, hLayer⟩ := Option.isSome_iff_exists.mp h.1
  obtain ⟨rules, -, hLayer⟩ := Option.bind_eq_some_iff.mp hLayer
  obtain ⟨encoding, -, hLayer⟩ := Option.bind_eq_some_iff.mp hLayer
  rw [hReport] at hLayer
  obtain ⟨stderr, hStderr, hLayer⟩ := Option.bind_eq_some_iff.mp hLayer
  obtain ⟨logFile, hLogFile, hLayer⟩ := Option.bind_eq_some_iff.mp hLayer
  obtain ⟨pretty, hPretty, -⟩ := Option.bind_eq_some_iff.mp hLayer
  obtain rfl | rfl | rfl : name = "stderr".toList ∨ name = "log_file".toList ∨
      name = "pretty".toList := by simpa [reportNames] using hName
  · rw [optional_eq_none rfl hFound] at hStderr
    cases hStderr
  · rw [optional_eq_none rfl hFound] at hLogFile
    cases hLogFile
  · rw [optional_eq_none rfl hFound] at hPretty
    cases hPretty

end Schema

section Paths

/-- The stray paths are the unknown names at the top level and those of the report. -/
theorem mem_strayPaths_iff (hFields : fields.Tidy) : p ∈ strayPaths fields ↔
    (∃ name ∉ names, p = [name] ∧ (fields.find? name).isSome) ∨
      ∃ leaf ∉ reportNames, p = ["report".toList, leaf] ∧ ∃ inner : Toml.Table,
        fields.find? "report".toList = some (.table inner) ∧ (inner.find? leaf).isSome := by
  rw [strayPaths, List.mem_flatMap]
  constructor
  · rintro ⟨⟨name, v⟩, hField, hPath⟩
    have hFound := (Fields.find?_eq_some_iff hFields.names).mpr hField
    rw [strayPathsIn] at hPath
    split at hPath
    next hName =>
      split at hPath
      next inner hTable =>
        obtain rfl : v = .table inner := hTable
        obtain ⟨field, hLeaf, rfl⟩ := List.mem_map.mp hPath
        obtain ⟨hLeaf, hNew⟩ := List.mem_filter.mp hLeaf
        have hInner := hFields.inner _ hField inner rfl
        have hSome := (Fields.find?_eq_some_iff hInner).mpr hLeaf
        exact .inr ⟨field.1, by simpa using hNew, rfl, inner, hName ▸ hFound, by rw [hSome]; rfl⟩
      next => cases hPath
    next =>
      split at hPath
      next => cases hPath
      next hNew =>
        exact .inl ⟨name, by simpa using hNew, List.mem_singleton.mp hPath, by rw [hFound]; rfl⟩
  · rintro (⟨name, hNew, rfl, hSome⟩ | ⟨leaf, hNew, rfl, inner, hReport, hSome⟩)
    · obtain ⟨v, hFound⟩ := Option.isSome_iff_exists.mp hSome
      have hName : name ≠ "report".toList := fun hSame => hNew (hSame ▸ report_mem_names)
      refine ⟨(name, v), Fields.mem_of_find? hFound, ?_⟩
      rw [strayPathsIn, if_neg hName, if_neg (by simpa using hNew)]
      exact List.mem_singleton_self _
    · obtain ⟨v, hFound⟩ := Option.isSome_iff_exists.mp hSome
      refine ⟨_, Fields.mem_of_find? hReport, ?_⟩
      rw [strayPathsIn, if_pos rfl]
      exact List.mem_map.mpr ⟨(leaf, v), List.mem_filter.mpr
        ⟨Fields.mem_of_find? hFound, by simpa using hNew⟩, rfl⟩

/-- Where the settings are of the right kind, the outermost unknown keys are what the table has just
outside the schema. -/
theorem mem_strayPaths (hFields : fields.Tidy) (hTyped : WellTyped fields) :
    p ∈ strayPaths fields ↔ (fields.at? p).isSome ∧ Outermost p := by
  rw [mem_strayPaths_iff hFields, Toml.Table.at?_eq]
  constructor
  · rintro (⟨name, hNew, rfl, hSome⟩ | ⟨leaf, hNew, rfl, inner, hReport, hSome⟩)
    · obtain ⟨v, hFound⟩ := Option.isSome_iff_exists.mp hSome
      exact ⟨Toml.Value.isSome_at?_cons_iff.mpr ⟨fields, v, rfl, hFound, rfl⟩,
        outermost_singleton_iff.mpr hNew⟩
    · obtain ⟨v, hFound⟩ := Option.isSome_iff_exists.mp hSome
      have hLeaf : (Toml.Value.at? [leaf] (.table inner)).isSome :=
        Toml.Value.isSome_at?_cons_iff.mpr ⟨inner, v, rfl, hFound, rfl⟩
      exact ⟨Toml.Value.isSome_at?_cons_iff.mpr ⟨fields, _, rfl, hReport, hLeaf⟩,
        outermost_pair_iff.mpr hNew⟩
  · rintro ⟨hSome, hOutermost⟩
    obtain rfl | ⟨above, leaf, rfl⟩ := List.eq_nil_or_concat' p
    · exact absurd (mem_schema_iff.mpr (.inl rfl)) hOutermost.1
    · have hAbove := hOutermost.2 above (List.prefix_append _ _) (by simp)
      obtain rfl | ⟨name, hName, rfl⟩ | ⟨name, hName, rfl⟩ := mem_schema_iff.mp hAbove
      · obtain ⟨_, v, hTable, hFound, -⟩ := Toml.Value.isSome_at?_cons_iff.mp hSome
        obtain rfl := Toml.Value.table.inj hTable
        exact .inl ⟨leaf, outermost_singleton_iff.mp hOutermost, rfl, by rw [hFound]; rfl⟩
      · obtain ⟨_, v, hTable, hFound, hInside⟩ := Toml.Value.isSome_at?_cons_iff.mp hSome
        obtain rfl := Toml.Value.table.inj hTable
        obtain ⟨inner, w, rfl, hLeaf, -⟩ := Toml.Value.isSome_at?_cons_iff.mp hInside
        obtain rfl := hTyped.eq_report hName hFound
        exact .inr ⟨leaf, outermost_pair_iff.mp hOutermost, rfl, inner, hFound, by rw [hLeaf]; rfl⟩
      · obtain ⟨_, v, hTable, hFound, hInside⟩ := Toml.Value.isSome_at?_cons_iff.mp hSome
        obtain rfl := Toml.Value.table.inj hTable
        obtain ⟨inner, w, rfl, hSetting, hInside⟩ := Toml.Value.isSome_at?_cons_iff.mp hInside
        obtain ⟨entries, x, rfl, -, -⟩ := Toml.Value.isSome_at?_cons_iff.mp hInside
        exact absurd hSetting (hTyped.not_table hFound hName)

theorem nodup_strayPathsIn {field : Text × Toml.Value} (hTidy : field.2.Tidy) :
    (strayPathsIn field).Nodup := by
  rw [strayPathsIn]
  split
  next =>
    split
    next inner hTable =>
      have hNames :
          ((inner.filter fun field => !reportNames.contains field.1).map Prod.fst).Nodup :=
        (hTidy inner hTable).sublist (List.filter_sublist.map _)
      have hSplit : ((inner.filter fun field => !reportNames.contains field.1).map fun field =>
          ["report".toList, field.1]) =
          ((inner.filter fun field => !reportNames.contains field.1).map Prod.fst).map fun name =>
            ["report".toList, name] := by
        rw [List.map_map]
        rfl
      rw [hSplit]
      exact hNames.map fun a b hSame => (List.cons.inj (List.cons.inj hSame).2).1
    next => exact List.nodup_nil
  next =>
    split
    next => exact List.nodup_nil
    next => exact List.nodup_singleton _

/-- Every path that comes of a field starts with its name. -/
theorem head?_of_mem_strayPathsIn {field : Text × Toml.Value} (h : p ∈ strayPathsIn field) :
    p.head? = some field.1 := by
  rw [strayPathsIn] at h
  split at h
  next hName =>
    split at h
    next =>
      obtain ⟨leaf, -, rfl⟩ := List.mem_map.mp h
      exact congrArg some hName.symm
    next => cases h
  next =>
    split at h
    next => cases h
    next => rw [List.mem_singleton.mp h]; rfl

theorem nodup_strayPaths (hFields : fields.Tidy) : (strayPaths fields).Nodup := by
  refine List.nodup_flatMap.mpr
    ⟨fun field hField => nodup_strayPathsIn (hFields.inner field hField),
    (List.pairwise_map.mp hFields.names).imp fun hNames p hp hq => ?_⟩
  exact hNames (Option.some.inj
    ((head?_of_mem_strayPathsIn hp).symm.trans (head?_of_mem_strayPathsIn hq)))

/-- The names that are told are the stray paths with points between their parts. -/
theorem unknownNames_eq (hFields : fields.Tidy) (hTyped : WellTyped fields) :
    unknownNames fields = (strayPaths fields).map (Text.joinWith '.') := by
  rw [unknownNames, strayPaths, List.map_flatMap]
  refine List.flatMap_congr fun ⟨name, v⟩ hField => ?_
  dsimp only
  rw [strayPathsIn]
  split
  next hName =>
    have hFound := (Fields.find?_eq_some_iff hFields.names).mpr hField
    rw [hName] at hFound
    cases v with
    | table inner =>
        rw [List.map_map]
        rfl
    | moment t =>
        have hMoment := hTyped.2
        rw [hFound] at hMoment
        cases hMoment
    | _ => rfl
  next => split <;> rfl

end Paths

section Lines

variable {s t : Text}

theorem splitLastPoint_of_notMem (h : '.' ∉ t) : splitLastPoint t = ([], t) := by
  have hAll : t.reverse.takeWhile (· ≠ '.') = t.reverse :=
    List.takeWhile_eq_self_iff.mpr fun c hc => by
      have hMem : c ∈ t := List.mem_reverse.mp hc
      simpa using fun hSame : c = '.' => h (hSame ▸ hMem)
  rw [splitLastPoint]
  rw [hAll, List.reverse_reverse]
  simp

theorem splitLastPoint_append_cons (h : '.' ∉ t) : splitLastPoint (s ++ '.' :: t) = (s, t) := by
  have hLeaf : (s ++ '.' :: t).reverse.takeWhile (· ≠ '.') = t.reverse := by
    rw [List.reverse_append, List.reverse_cons, List.append_assoc,
      List.takeWhile_append_of_pos fun c hc => by
        have hMem : c ∈ t := List.mem_reverse.mp hc
        simpa using fun hSame : c = '.' => h (hSame ▸ hMem)]
    simp
  have hBefore : (s ++ '.' :: t).length - t.length - 1 = s.length := by
    simp only [List.length_append, List.length_cons]
    omega
  rw [splitLastPoint]
  rw [hLeaf, List.reverse_reverse, hBefore, List.take_left]

/-- What stands before the last point of a text behind a point begins with what stands before that
point. -/
theorem exists_splitLastPoint (s t : Text) : ∃ more last,
    splitLastPoint (s ++ '.' :: t) = (s ++ more, last) ∧
      ∀ c, more.head? = some c → Toml.isKeyChar c = false := by
  by_cases hPoint : '.' ∈ t
  · obtain ⟨after, before, hText, hLast⟩ := List.eq_append_cons_of_mem (List.mem_reverse.mpr hPoint)
    have hSplit : s ++ '.' :: t = (s ++ '.' :: before.reverse) ++ '.' :: after.reverse := by
      rw [← List.reverse_reverse t, hText]
      simp
    refine ⟨'.' :: before.reverse, after.reverse, ?_, ?_⟩
    · rw [hSplit, splitLastPoint_append_cons (by simpa using hLast)]
    · rintro c hc
      obtain rfl := Option.some.inj hc
      decide
  · exact ⟨[], t, by rw [splitLastPoint_append_cons hPoint, List.append_nil], by simp⟩

theorem joinWith_pair (s t : Text) : Text.joinWith '.' [s, t] = s ++ '.' :: t :=
  rfl

theorem isBare_report : IsBare "report".toList := by
  decide

/-- An unknown name comes with the line that assigns to it. -/
theorem keyLine_name (hRows : Rows content rows) (hName : IsBare name) :
    keyLine content name = lineOf (places [] 1 rows) [name] := by
  rw [keyLine, splitLastPoint_of_notMem (hName.notMem (by decide))]
  change findLine [] name [] 1 _ = lineOf (places [] 1 rows) ([] ++ [name])
  exact findLine_eq_lineOf hRows.trimmed (hName.notMem (by decide))
    (fun names parts hNe hPadded => iff_of_false (Toml.trim_joinWith_ne_nil hPadded hNe) hNe)
    (by simp)

/-- An unknown name of the report comes with the line that assigns to it, if it needs no quotes. -/
theorem keyLine_report (hRows : Rows content rows) (hLeaf : IsBare leaf) :
    keyLine content (Text.joinWith '.' ["report".toList, leaf]) =
      lineOf (places [] 1 rows) ["report".toList, leaf] := by
  rw [keyLine, joinWith_pair, splitLastPoint_append_cons (hLeaf.notMem (by decide))]
  change findLine _ leaf [] 1 _ = lineOf (places [] 1 rows) (["report".toList] ++ [leaf])
  exact findLine_eq_lineOf hRows.trimmed (hLeaf.notMem (by decide))
    (fun names parts hNe hPadded => Toml.trim_joinWith_eq_iff hPadded hNe isBare_report) (by simp)

/-- Without a header that begins with the report, no line is found for a name of the report. -/
theorem keyLine_inside (hRows : Rows content rows)
    (hHeaders : ∀ place ∈ places [] 1 rows, place.value = none →
      ¬["report".toList] <+: place.path) :
    keyLine content (Text.joinWith '.' ["report".toList, leaf]) = 0 := by
  obtain ⟨more, last, hSplit, hMore⟩ := exists_splitLastPoint "report".toList leaf
  rw [keyLine, joinWith_pair, hSplit]
  refine findLine_eq_zero hRows.trimmed
    (fun place (hPlace : place ∈ places [] 1 rows) hNone parts hPadded hText => ?_) (by simp)
  obtain ⟨first, names, hPath⟩ := List.exists_cons_of_ne_nil (Toml.path_ne_nil hPlace)
  have hFirst := Toml.takeWhile_trim_joinWith (hPath ▸ hPadded)
  have hTable : ("report".toList ++ more).takeWhile Toml.isKeyChar = "report".toList := by
    rw [List.takeWhile_append_of_pos isBare_report.2]
    cases more with
    | nil => simp
    | cons c more => simp [hMore c rfl]
  rw [hText, hTable] at hFirst
  exact hHeaders place hPlace hNone (by simp [hPath, hFirst])

/-- An unknown key comes with the line that assigns to it, and with zero if no line does. -/
theorem keyLine_stray (hRows : Rows content rows) (hRead : Toml.read? content = some fields)
    (hTyped : WellTyped fields) (hp : p ∈ strayPaths fields) :
    keyLine content (Text.joinWith '.' p) = lineOf (places [] 1 rows) p := by
  have hTidy := Toml.tidy_of_read? hRead
  have hSome := ((mem_strayPaths hTidy hTyped).mp hp).1
  obtain ⟨name, -, rfl, -⟩ | ⟨leaf, -, rfl, -⟩ := (mem_strayPaths_iff hTidy).mp hp
  · obtain hNil | ⟨place, hPlace, hGives⟩ := (hRows.isSome_at?_iff hRead).mp hSome
    · cases hNil
    · exact keyLine_name hRows (hRows.isBare hPlace (hGives.mem_of_cons (Toml.path_ne_nil hPlace)))
  · obtain hNil | ⟨place, hPlace, hGives⟩ := (hRows.isSome_at?_iff hRead).mp hSome
    · cases hNil
    · rcases hGives with hPath | ⟨v, rest, hValue, hPath, -⟩
      · exact keyLine_report hRows (hRows.isBare hPlace (hPath.subset (by simp)))
      · obtain ⟨first, names, hFirst⟩ := List.exists_cons_of_ne_nil (Toml.path_ne_nil hPlace)
        rw [hFirst, List.cons_append] at hPath
        obtain ⟨rfl, hLeaf⟩ := List.cons.inj hPath
        cases names with
        | cons second names =>
            obtain ⟨rfl, -⟩ := List.cons.inj hLeaf
            exact keyLine_report hRows (hRows.isBare hPlace (by simp [hFirst]))
        | nil =>
            -- A value at the report keeps all headers and other keys away from it.
            have hAlone : ∀ other ∈ places [] 1 rows, ["report".toList] <+: other.path →
                place = other := fun other hOther hPrefix =>
              hRows.alone hRead hPlace hOther (by rw [hValue]; rfl) (hFirst ▸ hPrefix)
            rw [keyLine_inside hRows fun other hOther hNone hPrefix => ?_,
              lineOf_eq_zero fun other hOther _ hSame => ?_]
            · have hPrefix : ["report".toList] <+: other.path := by simp [hSame]
              rw [← hAlone other hOther hPrefix, hFirst] at hSame
              cases hSame
            · rw [← hAlone other hOther hPrefix, hValue] at hNone
              cases hNone

end Lines

section Refusal

/-- What is outside the schema lies behind a path that just leaves it. -/
theorem exists_outermost (p : List Text) (h : p ∉ schema) :
    ∃ above, above <+: p ∧ Outermost above := by
  by_cases hAll : ∀ above, above <+: p → above ≠ p → above ∈ schema
  · exact ⟨p, List.prefix_refl p, h, hAll⟩
  · obtain ⟨above, hAbove, hNe, hNew⟩ : ∃ above, above <+: p ∧ above ≠ p ∧ above ∉ schema := by
      simpa using hAll
    have hShorter : above.length < p.length :=
      lt_of_le_of_ne hAbove.length_le fun hSame => hNe (hAbove.eq_of_length hSame)
    obtain ⟨first, hFirst, hOutermost⟩ := exists_outermost above hNew
    exact ⟨first, hFirst.trans hAbove, hOutermost⟩
termination_by p.length

variable {path : Text} {environment : List (Text × Text)}

/-- The stray paths of the table that was read are those that stray in the rows. -/
theorem mem_strayPaths_iff_stray (hRows : Rows content rows)
    (hRead : Toml.read? content = some fields) (hTyped : WellTyped fields) :
    p ∈ strayPaths fields ↔ Stray rows p := by
  rw [mem_strayPaths (Toml.tidy_of_read? hRead) hTyped, hRows.isSome_at?_iff hRead, Stray]
  refine and_congr_left fun hOutermost => or_iff_right ?_
  rintro rfl
  exact hOutermost.1 (mem_schema_iff.mpr (.inl rfl))

theorem resolve_of_readFile_error {e : Error} (h : readFile true path content = .error e) :
    resolve ⟨[(path, content)], environment, true⟩ = .error e := by
  have hFiles : [(path, content)].mapM (fun file => readFile true file.1 file.2) = .error e := by
    rw [List.mapM_cons, h]
    rfl
  exact congrArg (· >>= _) hFiles

/-- The keys that are told are the unknown ones, if there are any. -/
theorem resolve_eq_unknownKeys_iff (hRead : Toml.read? content = some fields)
    (hLayer : (Layer.ofTable? .file fields).isSome) {keys : List UnknownKey} :
    resolve ⟨[(path, content)], environment, true⟩ = .error (.unknownKeys keys) ↔
      keys = unknownKeys path content fields ∧ keys ≠ [] := by
  have hKind : ¬(Layer.ofTable? .file fields).isNone = true := by
    simp [Option.ne_none_iff_isSome.mpr hLayer]
  by_cases hKnown : unknownKeys path content fields = []
  -- Such a file passes its check, and what may still refuse it names no keys.
  · have hCheck : check path content fields = .ok () := by rw [check, if_neg hKind, hKnown]
    refine iff_of_false (fun hRefused => ?_) fun hKeys => hKeys.2 (hKeys.1.trans hKnown)
    cases hUnmark : Toml.Table.unmark? fields with
    | none =>
        have hFile : readFile true path content = .error (.malformedSettings path) := by
          simp only [readFile, hRead, hCheck, hUnmark]
          rfl
        rw [resolve_of_readFile_error hFile] at hRefused
        cases hRefused
    | some kept =>
        have hFile : readFile true path content = .ok kept.sorted := by
          simp only [readFile, hRead, hCheck, hUnmark]
          rfl
        have hFiles : [(path, content)].mapM (fun file => readFile true file.1 file.2) =
            .ok [kept.sorted] := by
          rw [List.mapM_cons, hFile]
          rfl
        rw [resolve_of_tables hFiles, ofMerged] at hRefused
        split at hRefused <;> cases hRefused
  · have hCheck : check path content fields =
        .error (.unknownKeys (unknownKeys path content fields)) := by
      rw [check, if_neg hKind]
      split
      next hNone => exact absurd hNone hKnown
      next => rfl
    have hFile : readFile true path content =
        .error (.unknownKeys (unknownKeys path content fields)) := by
      simp only [readFile, hRead, hCheck]
      rfl
    rw [resolve_of_readFile_error hFile]
    constructor
    · intro hRefused
      obtain rfl := Error.unknownKeys.inj (Except.error.inj hRefused)
      exact ⟨rfl, hKnown⟩
    · rintro ⟨rfl, -⟩
      rfl

end Refusal

/-- In strict mode a file with settings of the right kind is refused for its unknown keys exactly if
it has a key or table outside the schema. Each of the outermost ones is told once, with the line
that assigns to it, and zero if no line does. -/
theorem resolve_unknown (hRows : Rows content rows) (hRead : Toml.read? content = some fields)
    (hTyped : WellTyped fields) (path : Text) (environment : List (Text × Text)) :
    ∃ strays : List (List Text), strays.Nodup ∧ (∀ p, p ∈ strays ↔ Stray rows p) ∧
      (strays = [] ↔ ∀ p, Yields rows p → p ∈ schema) ∧
      (∀ keys, resolve ⟨[(path, content)], environment, true⟩ = .error (.unknownKeys keys) ↔
        strays ≠ [] ∧ keys = strays.map fun p =>
          ⟨Text.joinWith '.' p, path, lineOf (places [] 1 rows) p⟩) ∧
      ∀ place ∈ places [] 1 rows, place.value.isSome →
        lineOf (places [] 1 rows) place.path = place.line := by
  have hKeys : unknownKeys path content fields = (strayPaths fields).map fun p =>
      ⟨Text.joinWith '.' p, path, lineOf (places [] 1 rows) p⟩ := by
    rw [unknownKeys, unknownNames_eq (Toml.tidy_of_read? hRead) hTyped, List.map_map]
    exact List.map_congr_left fun p hp => by
      rw [Function.comp_apply, keyLine_stray hRows hRead hTyped hp]
  have hStray : ∀ p, p ∈ strayPaths fields ↔ Stray rows p :=
    fun p => mem_strayPaths_iff_stray hRows hRead hTyped
  refine ⟨strayPaths fields, nodup_strayPaths (Toml.tidy_of_read? hRead), hStray, ⟨?_, ?_⟩,
    fun keys => ?_, fun place hPlace hValue => ?_⟩
  · intro hNone p hYields
    by_contra hNew
    obtain ⟨above, hAbove, hOutermost⟩ := exists_outermost p hNew
    have hFound := (hStray above).mpr ⟨hYields.of_prefix hAbove, hOutermost⟩
    rw [hNone] at hFound
    cases hFound
  · intro hAll
    refine List.eq_nil_iff_forall_not_mem.mpr fun p hp => ?_
    obtain ⟨hYields, hOutermost⟩ := (hStray p).mp hp
    exact hOutermost.1 (hAll p hYields)
  · rw [resolve_eq_unknownKeys_iff hRead hTyped.1, hKeys]
    constructor
    · rintro ⟨rfl, hSome⟩
      exact ⟨by simpa using hSome, rfl⟩
    · rintro ⟨hSome, rfl⟩
      exact ⟨rfl, by simpa using hSome⟩
  · exact lineOf_eq hPlace hValue fun other hOther _ hSame =>
      (hRows.alone hRead hPlace hOther hValue (hSame ▸ List.prefix_refl _)).symm

/-- The header of a table with one name on a line of its own. -/
theorem rows_header (name : Text) {rest : Text} (hName : IsBare name) (hRows : Rows rest rows) :
    Rows ('[' :: (name ++ [']']) ++ '\n' :: rest) (.header [] name :: rows) := by
  have hGap : Toml.IsGaps [] := List.forall_mem_nil _
  have hSpells : Row.Spells ('\n' :: rest) rest (.header [] name)
      ([] ++ '[' :: (Text.joinWith '.' [name] ++ ']' :: [])) :=
    .header hGap hGap (.cons ⟨hName, [], [], hGap, hGap, by simp⟩ .nil)
  exact .cons hSpells rfl hRows

/-- A file with an unknown key, another one of the same name in the report, and an unknown table. -/
def scattered : Text :=
  "typo = true\n[report]\nstderr = false\ntypo = true\n[more]\n".toList

def scatteredRows : List Row :=
  [.assign "typo".toList (.boolean true), .header [] "report".toList,
    .assign "stderr".toList (.boolean false), .assign "typo".toList (.boolean true),
    .header [] "more".toList, .empty]

/-- The rows of a file with one unknown name of each sort. -/
theorem rows_scattered : Rows scattered scatteredRows := by
  have hGap : Toml.IsGaps [] := List.forall_mem_nil _
  have hSpace : Toml.IsGaps [' '] := by simp [Toml.IsGaps, Toml.isGap]
  have hFlag : ∀ (name shown : Text) {rest : Text} {rows : List Row} (b : Bool), IsBare name →
      (shown = "true".toList ∧ b = true ∨ shown = "false".toList ∧ b = false) → Rows rest rows →
      Rows (name ++ [' '] ++ '=' :: ' ' :: shown ++ '\n' :: rest)
        (.assign name (.boolean b) :: rows) := by
    intro name shown rest rows b hName hShown hRows
    refine .cons (.assign ⟨hName, [], [' '], hGap, hSpace, rfl⟩ ?_ ?_) rfl hRows
    · obtain ⟨rfl, -⟩ | ⟨rfl, -⟩ := hShown <;> simp
    · obtain ⟨rfl, rfl⟩ | ⟨rfl, rfl⟩ := hShown <;> rfl
  have hEnd : Rows [] [.empty] := .last (.blank hGap)
  have hMore := rows_header "more".toList (by decide) hEnd
  have hTypo := hFlag "typo".toList "true".toList true (by decide) (by simp) hMore
  have hStderr := hFlag "stderr".toList "false".toList false (by decide) (by simp) hTypo
  exact hFlag "typo".toList "true".toList true (by decide) (by simp)
    (rows_header _ isBare_report hStderr)

/-- One unknown name of each sort. The header is told with line zero. -/
theorem resolve_unknown_scattered :
    Rows scattered scatteredRows ∧
      (∃ fields, Toml.read? scattered = some fields ∧ WellTyped fields) ∧
      ∃ strays : List (List Text), strays.Nodup ∧ (∀ p, p ∈ strays ↔ Stray scatteredRows p) ∧
        (strays.map fun p => (Text.joinWith '.' p, lineOf (places [] 1 scatteredRows) p)) =
          [("typo".toList, 1), ("report.typo".toList, 4), ("more".toList, 0)] := by
  have hChecked : (Toml.read? scattered).map (fun fields => decide (WellTyped fields)) =
      some true := by decide +kernel
  obtain ⟨fields, hRead, hTyped⟩ := Option.map_eq_some_iff.mp hChecked
  have hTyped := of_decide_eq_true hTyped
  have hRefused : resolve ⟨[("a.toml".toList, scattered)], [], true⟩ = .error (.unknownKeys
      [⟨"typo".toList, "a.toml".toList, 1⟩, ⟨"report.typo".toList, "a.toml".toList, 4⟩,
        ⟨"more".toList, "a.toml".toList, 0⟩]) := by decide +kernel
  obtain ⟨strays, hNodup, hStrays, -, hKeys, -⟩ :=
    resolve_unknown rows_scattered hRead hTyped "a.toml".toList []
  refine ⟨rows_scattered, ⟨fields, hRead, hTyped⟩, strays, hNodup, hStrays, ?_⟩
  have hLines := congrArg (List.map fun key : UnknownKey => (key.key, key.line))
    ((hKeys _).mp hRefused).2
  rw [List.map_map] at hLines
  exact hLines.symm

/-- The line of an unknown table is not told, though its header stands in the first line. -/
theorem resolve_unknown_table :
    let content := "[extra]\n".toList
    let rows : List Row := [.header [] "extra".toList, .empty]
    Rows content rows ∧ (∃ fields, Toml.read? content = some fields ∧ WellTyped fields) ∧
      Stray rows ["extra".toList] ∧ ⟨1, ["extra".toList], none⟩ ∈ places [] 1 rows ∧
      resolve ⟨[("a.toml".toList, content)], [], true⟩ =
        .error (.unknownKeys [⟨"extra".toList, "a.toml".toList, 0⟩]) := by
  intro content rows
  have hRows : Rows content rows :=
    rows_header "extra".toList (by decide) (.last (.blank (List.forall_mem_nil _)))
  have hChecked : (Toml.read? content).map (fun fields => decide (WellTyped fields)) =
      some true := by decide +kernel
  obtain ⟨fields, hRead, hTyped⟩ := Option.map_eq_some_iff.mp hChecked
  have hPlace : (⟨1, ["extra".toList], none⟩ : Toml.Place) ∈ places [] 1 rows := List.mem_cons_self
  refine ⟨hRows, ⟨fields, hRead, of_decide_eq_true hTyped⟩, ⟨⟨_, hPlace, .inl ?_⟩, ?_⟩, hPlace, ?_⟩
  · exact List.prefix_refl _
  · exact outermost_singleton_iff.mpr (by decide)
  · decide +kernel

end Rubric.Settings
