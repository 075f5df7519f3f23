import ShaderInterface.Proofs.MirroredScans
import ShaderInterface.Proofs.RecordPacking

namespace ShaderInterface

namespace Traced

variable {α β : Type} {f : α → Traced β} {l : List α} {bs : List β}

theorem result_mapM_of_forall₂ (h : List.Forall₂ (fun a b => (f a).result = .ok b) l bs) :
    (l.mapM f).result = .ok bs := by
  induction h with
  | nil => rw [List.mapM_nil, result_pure]
  | cons ha _ ih =>
    rw [List.mapM_cons, bind_of_ok ha, bind_of_ok ih]
    rfl

/-- The first element that is refused decides. -/
theorem result_mapM_of_error {before : List α} {a : α} {fault : Fault}
    (hbefore : ∀ a ∈ before, ∃ b, (f a).result = .ok b) (ha : (f a).result = .error fault)
    (after : List α) : ((before ++ a :: after).mapM f).result = .error fault := by
  induction before with
  | nil => rw [List.nil_append, List.mapM_cons, bind_of_error ha]
  | cons first rest ih =>
    obtain ⟨⟨b, hb⟩, hrest⟩ := List.forall_mem_cons.1 hbefore
    rw [List.cons_append, List.mapM_cons, bind_of_ok hb, bind_of_error (ih hrest)]

end Traced

namespace IdTable

/-- The inputs with a location, by ascending location and, at one location, by ascending id. -/
structure InputOrder (t : IdTable) (ps : List (Int × DeclaredVariable)) : Prop where
  mem_iff : ∀ n v, (n, v) ∈ ps ↔
    t.HasVariable v ∧ v.decl.storage = .input ∧ v.entry.Gives .location n
  ascending : ps.Pairwise fun p q => p.1 < q.1 ∨ p.1 = q.1 ∧ p.2.id < q.2.id

def variableLayout (t : IdTable) (limit : Int) (v : DeclaredVariable) : Except Fault Layout :=
  t.typeOf v.decl.type.toNat >>= t.layoutOf limit

def part (t : IdTable) (limit : Int) (p : Int × DeclaredVariable) : Traced (String × Layout) := do
  return (fieldName p.1 p.2, ← t.layoutOf limit (← t.typeOf p.2.decl.type.toNat))

/-- An input goes by its own name, or by its location if it has none or an empty one. -/
def GoesBy (p : Int × DeclaredVariable) (name : String) : Prop :=
  (p.2.entry.name? = some name ∧ name ≠ "") ∨
    ((p.2.entry.name? = none ∨ p.2.entry.name? = some "") ∧ name = "location" ++ toString p.1)

instance (p : Int × DeclaredVariable) (name : String) : Decidable (GoesBy p name) :=
  inferInstanceAs (Decidable (_ ∨ _))

def Parts (t : IdTable) (limit : Int) (ps : List (Int × DeclaredVariable))
    (parts : List (String × Layout)) : Prop :=
  List.Forall₂ (fun p part => GoesBy p part.1 ∧ t.variableLayout limit p.2 = .ok part.2) ps parts

variable {t : IdTable} {limit : Int}

theorem InputOrder.unique {ps ps' : List (Int × DeclaredVariable)} (h : t.InputOrder ps)
    (h' : t.InputOrder ps') : ps = ps' := by
  have hnodup : ∀ {qs}, t.InputOrder qs → qs.Nodup := by
    intro qs hqs
    refine hqs.ascending.imp fun {p q} hlt hpq => ?_
    subst hpq
    omega
  have hperm : ps.Perm ps' := by
    rw [List.perm_ext_iff_of_nodup (hnodup h) (hnodup h')]
    rintro ⟨n, v⟩
    rw [h.mem_iff, h'.mem_iff]
  refine hperm.eq_of_pairwise (fun p q _ _ hpq hqp => ?_) h.ascending h'.ascending
  omega

theorem result_locatedVariables_eq_error {storage : StorageClass} {fault : Fault}
    (h : (t.locatedVariables storage).result = .error fault) :
    fault = .valueMissing .location := by
  have hliteral : ∀ e : Entry, Settles (e.firstLiteral .location) (fun _ => True)
      (· = .valueMissing .location) := by
    intro e
    rw [Entry.firstLiteral]
    split
    · exact .ok trivial
    · exact .ok trivial
    · exact .error rfl
  have hall : Settles (t.locatedVariables storage).result (fun ps => ∀ p ∈ ps, True)
      (· = .valueMissing .location) := by
    refine Settles.result_collect fun v _ => ?_
    refine (hliteral v.entry).result_lift.result_bind fun n? _ => ?_
    cases n? with
    | none => exact .ok fun _ _ => trivial
    | some n => exact .ok fun _ _ => trivial
  exact hall.of_eq_error h

theorem snd_of_forall₂ {vs : List DeclaredVariable} {ps : List (Int × DeclaredVariable)}
    (h : List.Forall₂ (fun v p => p.2 = v ∧ v.entry.Gives .location p.1) vs ps) :
    ps.map Prod.snd = vs ∧ ∀ p ∈ ps, p.2.entry.Gives .location p.1 := by
  induction h with
  | nil => exact ⟨rfl, List.forall_mem_nil _⟩
  | cons hp _ ih =>
    obtain ⟨rfl, hgives⟩ := hp
    exact ⟨congrArg _ ih.1, List.forall_mem_cons.2 ⟨hgives, ih.2⟩⟩

/-- The scan goes by ascending id, and sorting by location keeps that order at each location. -/
theorem inputOrder_of_locatedVariables {ps : List (Int × DeclaredVariable)}
    (h : (t.locatedVariables .input).result = .ok ps) :
    t.InputOrder (ps.mergeSort fun a b => a.1 ≤ b.1) := by
  obtain ⟨-, hps⟩ := (t.settles_locatedVariables_exact rfl).of_eq_ok h
  obtain ⟨hvs, hgives⟩ := snd_of_forall₂ hps
  constructor
  case mem_iff =>
    intro n v
    have hv : v ∈ ps.map Prod.snd ↔ (t.HasVariable v ∧ v.decl.storage = .input) ∧ v.Decorated := by
      rw [hvs, List.mem_filter, mem_declaredVariables_iff, decide_eq_true_iff]
    rw [List.mem_mergeSort]
    constructor
    · intro hmem
      obtain ⟨⟨hvar, hstorage⟩, -⟩ := hv.1 (List.mem_map_of_mem hmem)
      exact ⟨hvar, hstorage, hgives _ hmem⟩
    · rintro ⟨hvar, hstorage, hn⟩
      have hdecorated : v.Decorated := by
        obtain ⟨d, hd, -⟩ := hn
        rw [← Entry.decoration?_eq_some_iff] at hd
        simp [DeclaredVariable.decorated_iff, hstorage, StorageClass.required, hd]
      obtain ⟨⟨n', w⟩, hmem, rfl⟩ := List.mem_map.1 (hv.2 ⟨⟨hvar, hstorage⟩, hdecorated⟩)
      rw [hn.unique (hgives _ hmem)]
      exact hmem
  case ascending =>
    have hids : (ps.map Prod.snd).Pairwise fun v w => v.id < w.id := by
      rw [hvs]
      exact (pairwise_declaredVariables t .input).filter _
    rw [List.pairwise_map] at hids
    exact pairwise_mergeSort_key hids

theorem goesBy_iff {p : Int × DeclaredVariable} {name : String} :
    GoesBy p name ↔ name = fieldName p.1 p.2 := by
  have hlocation : s!"location{p.1}" = "location" ++ toString p.1 := rfl
  rw [GoesBy, fieldName, hlocation]
  cases p.2.entry.name? with
  | none => simp [Fault.nameOr]
  | some own =>
    by_cases hempty : own = ""
    · subst hempty
      simp [Fault.nameOr]
    · have hown : Fault.nameOr ("location" ++ toString p.1) (some own) = own := by
        unfold Fault.nameOr
        split <;> simp_all
      rw [hown]
      grind

theorem result_part (t : IdTable) (limit : Int) (p : Int × DeclaredVariable) :
    (t.part limit p).result = (t.variableLayout limit p.2).map (fieldName p.1 p.2, ·) := by
  rw [part, ← bind_assoc, ← Traced.lift_bind, Traced.result_bind]
  change (t.variableLayout limit p.2).bind _ = _
  cases t.variableLayout limit p.2 <;> rfl

theorem inputLayout_eq (t : IdTable) (limit : Int) :
    t.inputLayout limit = t.locatedVariables .input >>= fun ps =>
      (ps.mergeSort fun a b => a.1 ≤ b.1).mapM (t.part limit) >>= fun parts =>
        liftM (RecordLayout.pack parts) :=
  rfl

theorem result_inputLayout {ps : List (Int × DeclaredVariable)}
    (h : (t.locatedVariables .input).result = .ok ps) (limit : Int) :
    (t.inputLayout limit).result =
      ((ps.mergeSort fun a b => a.1 ≤ b.1).mapM (t.part limit)).result.bind RecordLayout.pack := by
  rw [inputLayout_eq, Traced.bind_of_ok h, Traced.result_bind]
  rfl

theorem result_mapM_part {ps : List (Int × DeclaredVariable)} {parts : List (String × Layout)}
    (h : t.Parts limit ps parts) : (ps.mapM (t.part limit)).result = .ok parts := by
  refine Traced.result_mapM_of_forall₂ (List.Forall₂.imp (fun p named hp => ?_) h)
  obtain ⟨hname, hlayout⟩ := hp
  rw [result_part, hlayout, ← goesBy_iff.1 hname]
  rfl

theorem result_mapM_part_of_error {before after : List (Int × DeclaredVariable)}
    {p : Int × DeclaredVariable} {fault : Fault}
    (hbefore : ∀ q ∈ before, ∃ l, t.variableLayout limit q.2 = .ok l)
    (hp : t.variableLayout limit p.2 = .error fault) :
    ((before ++ p :: after).mapM (t.part limit)).result = .error fault := by
  refine Traced.result_mapM_of_error (fun q hq => ?_) ?_ after
  · obtain ⟨l, hl⟩ := hbefore q hq
    exact ⟨(fieldName q.1 q.2, l), by rw [result_part, hl]; rfl⟩
  · rw [result_part, hp]
    rfl

/-- The inputs are packed, unless a part, the names of columns or an offset stands in the way. -/
theorem inputLayout_packs (t : IdTable) (limit : Int) :
    ((∃ v, t.HasVariable v ∧ v.decl.storage = .input ∧ v.entry.Valueless .location) →
      (t.inputLayout limit).result = .error (.valueMissing .location)) ∧
    ((¬ ∃ v, t.HasVariable v ∧ v.decl.storage = .input ∧ v.entry.Valueless .location) →
      ∃ ps, t.InputOrder ps ∧
        (∀ before p after fault, ps = before ++ p :: after →
          (∀ q ∈ before, ∃ l, t.variableLayout limit q.2 = .ok l) →
          t.variableLayout limit p.2 = .error fault →
          (t.inputLayout limit).result = .error fault) ∧
        ∀ parts, t.Parts limit ps parts →
          (RecordLayout.Columns (parts.map (·.1)) → ∃ fault,
            (t.inputLayout limit).result = .error fault ∧
              fault.category = RecordLayout.columnCategory (parts.map (·.1))) ∧
          (¬ RecordLayout.Columns (parts.map (·.1)) → ¬ RecordLayout.OffsetsFit parts → ∃ fault,
            (t.inputLayout limit).result = .error fault ∧ fault.category = .layout) ∧
          (¬ RecordLayout.Columns (parts.map (·.1)) → RecordLayout.OffsetsFit parts → ∃ r,
            (t.inputLayout limit).result = .ok r ∧ RecordLayout.Packs parts r)) := by
  have hrequired : StorageClass.input.required = [.location] := rfl
  have hlocated := t.settles_locatedVariables_exact hrequired
  constructor
  · rintro ⟨v, hvar, hstorage, hvalueless⟩
    cases h : (t.locatedVariables .input).result with
    | error fault =>
      rw [inputLayout_eq, Traced.bind_of_error h, result_locatedVariables_eq_error h]
    | ok ps =>
      obtain ⟨hnone, -⟩ := hlocated.of_eq_ok h
      exact absurd hvalueless (hnone v (mem_declaredVariables_iff.2 ⟨hvar, hstorage⟩))
  · intro hvalued
    cases h : (t.locatedVariables .input).result with
    | error fault =>
      obtain ⟨v, hv, hvalueless⟩ := hlocated.of_eq_error h
      obtain ⟨hvar, hstorage⟩ := mem_declaredVariables_iff.1 hv
      exact absurd ⟨v, hvar, hstorage, hvalueless⟩ hvalued
    | ok ps =>
      refine ⟨_, inputOrder_of_locatedVariables h, fun before p after fault hps hbefore hp => ?_,
        fun parts hparts => ?_⟩
      · rw [result_inputLayout h limit, hps, result_mapM_part_of_error hbefore hp]
        rfl
      · have hresult : (t.inputLayout limit).result = RecordLayout.pack parts := by
          rw [result_inputLayout h limit, result_mapM_part hparts]
          rfl
        rw [hresult]
        exact ⟨RecordLayout.pack_of_columns,
          fun hcolumns hfit => ⟨_, RecordLayout.pack_of_not_offsetsFit hcolumns hfit, rfl⟩,
          RecordLayout.pack_of_offsetsFit⟩

def inputEntry (name? : Option String) (type : UInt32) (location : Nat) : Entry where
  name? := name?
  var? := some ⟨type, .input, []⟩
  decorations := [⟨.location, [location]⟩]

def inputAt (id : Nat) (name? : Option String) (type : UInt32) (location : Nat) :
    Int × DeclaredVariable :=
  (location, ⟨id, inputEntry name? type location, ⟨type, .input, []⟩⟩)

/-- Two inputs of one name at one location, one without a name in front of them and one with an
empty name behind. -/
def sharedNameTable : IdTable :=
  ⟨#[{ type? := some (.float 32) }, { type? := some (.int 64 true) }, inputEntry "a" 0 1,
    inputEntry none 1 0, inputEntry "a" 1 1, inputEntry "" 0 12]⟩

theorem inputLayout_packs_shared_name :
    ∃ r, (sharedNameTable.inputLayout 64).result = .ok r ∧ r.size = 24 ∧
      (∀ name, name ∈ r.fields.map (·.name) ↔ name ∈ ["location0", "a", "a", "location12"]) ∧
      ⟨"a", .scalar .int64, 12⟩ ∈ r.fields ∧ ⟨"location12", .scalar .float32, 20⟩ ∈ r.fields := by
  have hlocated : (sharedNameTable.locatedVariables .input).result =
      .ok [inputAt 2 "a" 0 1, inputAt 3 none 1 0, inputAt 4 "a" 1 1, inputAt 5 "" 0 12] := by
    decide +kernel
  have hsorted : [inputAt 2 "a" 0 1, inputAt 3 none 1 0, inputAt 4 "a" 1 1,
        inputAt 5 "" 0 12].mergeSort (fun a b => decide (a.1 ≤ b.1)) =
      [inputAt 3 none 1 0, inputAt 2 "a" 0 1, inputAt 4 "a" 1 1, inputAt 5 "" 0 12] := by
    simp [List.mergeSort, inputAt]
  have horder := inputOrder_of_locatedVariables hlocated
  rw [hsorted] at horder
  have hvalued : ¬ ∃ v, sharedNameTable.HasVariable v ∧ v.decl.storage = .input ∧
      v.entry.Valueless .location := by
    rintro ⟨v, hvar, hstorage, hvalueless⟩
    have hall := ((sharedNameTable.settles_locatedVariables_exact rfl).of_eq_ok hlocated).1
    exact hall v (mem_declaredVariables_iff.2 ⟨hvar, hstorage⟩) hvalueless
  obtain ⟨ps, hps, -, hpack⟩ := (inputLayout_packs sharedNameTable 64).2 hvalued
  rw [hps.unique horder] at hpack
  have hparts : sharedNameTable.Parts 64
      [inputAt 3 none 1 0, inputAt 2 "a" 0 1, inputAt 4 "a" 1 1, inputAt 5 "" 0 12]
      [("location0", .scalar .int64), ("a", .scalar .float32), ("a", .scalar .int64),
        ("location12", .scalar .float32)] :=
    .cons ⟨by decide, by decide⟩ (.cons ⟨by decide, by decide⟩ (.cons ⟨by decide, by decide⟩
      (.cons ⟨by decide, by decide⟩ .nil)))
  have hfit : RecordLayout.OffsetsFit [("location0", .scalar .int64), ("a", .scalar .float32),
      ("a", .scalar .int64), ("location12", .scalar .float32)] := by
    rw [RecordLayout.offsetsFit_iff]
    decide +kernel
  obtain ⟨r, hr, hpacks⟩ := (hpack _ hparts).2.2 (by decide) hfit
  refine ⟨r, hr, hpacks.size_eq, hpacks.mem_names_iff, (hpacks.mem_fields_iff _).2 ?_,
    (hpacks.mem_fields_iff _).2 ?_⟩
  · exact ⟨[("location0", .scalar .int64), ("a", .scalar .float32)],
      [("location12", .scalar .float32)], rfl, by decide, rfl⟩
  · exact ⟨[("location0", .scalar .int64), ("a", .scalar .float32), ("a", .scalar .int64)], [],
      rfl, List.not_mem_nil, rfl⟩

def columnNamesTable : IdTable :=
  ⟨#[{ type? := some (.float 32) }, inputEntry "names" 0 0, inputEntry "formats" 0 1,
    inputEntry "offsets" 0 2]⟩

def longArraysTable : IdTable :=
  ⟨#[{ type? := some (.float 32) }, { const? := some ⟨0, [536870911]⟩ },
    { type? := some (.array 0 1) }, inputEntry "a" 2 0, inputEntry "b" 2 1, inputEntry "c" 2 2]⟩

/-- With a field for the offsets the fault is not one of the values of a layout but of its form; and
a field too far behind the start is refused without any columns. -/
theorem inputLayout_of_offsets_column :
    (columnNamesTable.InputOrder
        [inputAt 1 "names" 0 0, inputAt 2 "formats" 0 1, inputAt 3 "offsets" 0 2] ∧
      columnNamesTable.Parts 64
        [inputAt 1 "names" 0 0, inputAt 2 "formats" 0 1, inputAt 3 "offsets" 0 2]
        [("names", .scalar .float32), ("formats", .scalar .float32),
          ("offsets", .scalar .float32)] ∧
      (columnNamesTable.inputLayout 64).result = .error .offsetsNotNumbers ∧
      Fault.offsetsNotNumbers.category = .layoutForm) ∧
    longArraysTable.InputOrder [inputAt 3 "a" 2 0, inputAt 4 "b" 2 1, inputAt 5 "c" 2 2] ∧
      longArraysTable.Parts 64 [inputAt 3 "a" 2 0, inputAt 4 "b" 2 1, inputAt 5 "c" 2 2]
        [("a", .block (.scalar .float32) [536870911]), ("b", .block (.scalar .float32) [536870911]),
          ("c", .block (.scalar .float32) [536870911])] ∧
      (longArraysTable.inputLayout 64).result = .error .offsetTooLarge ∧
      Fault.offsetTooLarge.category = .layout := by
  constructor
  · have hlocated : (columnNamesTable.locatedVariables .input).result =
        .ok [inputAt 1 "names" 0 0, inputAt 2 "formats" 0 1, inputAt 3 "offsets" 0 2] := by
      decide +kernel
    have horder := inputOrder_of_locatedVariables hlocated
    have hresult := result_inputLayout hlocated 64
    rw [List.mergeSort_of_pairwise (by decide)] at horder hresult
    refine ⟨horder, ?_, hresult.trans (by decide +kernel), rfl⟩
    exact .cons ⟨by decide, by decide⟩ (.cons ⟨by decide, by decide⟩
      (.cons ⟨by decide, by decide⟩ .nil))
  · have hlocated : (longArraysTable.locatedVariables .input).result =
        .ok [inputAt 3 "a" 2 0, inputAt 4 "b" 2 1, inputAt 5 "c" 2 2] := by decide +kernel
    have horder := inputOrder_of_locatedVariables hlocated
    have hresult := result_inputLayout hlocated 64
    rw [List.mergeSort_of_pairwise (by decide)] at horder hresult
    refine ⟨horder, ?_, hresult.trans (by decide +kernel), rfl⟩
    exact .cons ⟨by decide, by decide +kernel⟩ (.cons ⟨by decide, by decide +kernel⟩
      (.cons ⟨by decide, by decide +kernel⟩ .nil))

end IdTable

end ShaderInterface
