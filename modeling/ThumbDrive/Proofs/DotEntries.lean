import ThumbDrive.Proofs.Lookup

/-! # Dot entries

A directory has entries for itself and for the directory above it.  They are neither shown nor
followed, and what makes an entry one of them is the name it is shown under.  A component, however,
names an entry by either of its two names.  So an entry whose short name is that of the directory
above, and which is shown under a long name, is **masked**: it passes for a child, and `..` names
it.

Nothing else answers to `..`, for no letter has a dot among its capitals (`Text.capitals_dot`), and
an entry without a long name is shown under its short name, in which the flags for small letters
change no dot (`ShortName.cased_of_plain_dots`).  Hence a path with `..` among its components leads
somewhere exactly if it comes upon a masked entry there (`Volume.Climbs`).  This holds of every
volume and on every device, for it is said of one walk, whatever its reads bring. -/
namespace ThumbDrive

/-! ## Names of dots -/

namespace Text

theorem ofNat_eq_dot {m : Nat} (h : Char.ofNat m = '.') : m = 46 := by
  by_cases hvalid : m.isValidChar
  · rw [Char.ofNat, dif_pos hvalid] at h
    exact congrArg Char.toNat h
  · rw [Char.ofNat, dif_neg hvalid] at h
    cases h

theorem capital_of_mem_caseRuns : ∀ r ∈ caseRuns, 46 < r.capital := by decide +kernel

theorem capitals_of_mem_longCapitals : ∀ entry ∈ longCapitals, entry.2 ≠ [] ∧ 46 ∉ entry.2 := by
  decide +kernel

/-- **Every character has capitals, and none but the dot has a dot among them.** -/
theorem capitals_dot (c : Char) : capitals c ≠ [] ∧ ('.' ∈ capitals c → c = '.') := by
  unfold capitals
  dsimp only
  split
  · refine ⟨List.cons_ne_nil _ _, fun h => ?_⟩
    have hc := List.mem_singleton.mp h
    split at hc
    · next hsmall =>
      have hlow : 97 ≤ c.toNat := hsmall.1
      have hhigh : c.toNat ≤ 122 := hsmall.2
      have hn := ofNat_eq_dot hc.symm
      omega
    · exact hc.symm
  · split
    · next r hr =>
      refine ⟨List.cons_ne_nil _ _, fun h => ?_⟩
      have hcapital := capital_of_mem_caseRuns r (List.mem_of_find?_eq_some hr)
      have hn := ofNat_eq_dot (List.mem_singleton.mp h).symm
      omega
    · split
      · next ns hns =>
        obtain ⟨front, back, htable, -⟩ := List.lookup_eq_some_iff.mp hns
        have hmem : (c.toNat, ns) ∈ longCapitals := by
          rw [htable]
          exact List.mem_append_right _ List.mem_cons_self
        obtain ⟨hne, hdot⟩ := capitals_of_mem_longCapitals _ hmem
        refine ⟨fun h => hne (List.map_eq_nil_iff.mp h), fun h => ?_⟩
        obtain ⟨n, hn, heq⟩ := List.mem_map.mp h
        exact absurd (ofNat_eq_dot heq ▸ hn) hdot
      · exact ⟨List.cons_ne_nil _ _, fun h => (List.mem_singleton.mp h).symm⟩

theorem eq_dots_of_capitals {s : List Char} {n : Nat}
    (h : s.flatMap capitals = List.replicate n '.') : s = List.replicate n '.' := by
  induction s generalizing n with
  | nil => exact h
  | cons c s ih =>
    rw [List.flatMap_cons] at h
    have hall : ∀ b ∈ capitals c, b = '.' := by
      intro b hb
      refine List.eq_of_mem_replicate (n := n) ?_
      rw [← h]
      exact List.mem_append_left _ hb
    obtain ⟨hne, hdot⟩ := capitals_dot c
    obtain ⟨b, bs, hcapitals⟩ := List.exists_cons_of_ne_nil hne
    have hb : b ∈ capitals c := hcapitals ▸ List.mem_cons_self
    have hc : c = '.' := hdot (hall b hb ▸ hb)
    subst hc
    cases n with
    | zero => cases h
    | succ n =>
      have hrest : s.flatMap capitals = List.replicate n '.' := List.tail_eq_of_cons_eq h
      rw [ih hrest, List.replicate_succ]

/-- Nothing but two dots is equal to two dots up to case. -/
theorem sameLetters_dots_iff {s : String} : sameLetters s ".." = true ↔ s = ".." := by
  constructor
  · intro h
    have hcapitals : s.toList.flatMap capitals = List.replicate 2 '.' := beq_iff_eq.mp h
    exact String.toList_inj.mp (eq_dots_of_capitals hcapitals)
  · rintro rfl
    decide

end Text

namespace ShortName

theorem decoded_eq_dot {x : UInt8} (h : decoded x = '.') : x = 0x2E := by
  unfold decoded at h
  split at h
  · exact UInt8.toNat_inj.mp (Text.ofNat_eq_dot h)
  · exact absurd h (by decide)

theorem dots_of_unmasked {b : Bytes} (h : ∀ x ∈ unmasked b, x = 0x2E) : ∀ x ∈ b, x = 0x2E := by
  unfold unmasked at h
  split at h
  · exact absurd (h 0xE5 List.mem_cons_self) (by decide)
  · exact h

/-- A name of dots has a base and an extension of dots. -/
theorem dots_of_text {base ext : Bytes} (h : text base ext = "..") :
    (∀ x ∈ unpadded base, x = 0x2E) ∧ ∀ x ∈ unpadded ext, x = 0x2E := by
  have hchars : (unmasked (if (unpadded ext).isEmpty then unpadded base
      else unpadded base ++ 0x2E :: unpadded ext)).map decoded = List.replicate 2 '.' := by
    have hlist := congrArg String.toList h
    rw [text, String.toList_ofList] at hlist
    exact hlist
  have hbytes := dots_of_unmasked fun x hx =>
    decoded_eq_dot (List.eq_of_mem_replicate (hchars ▸ List.mem_map_of_mem hx))
  by_cases hext : (unpadded ext).isEmpty = true
  · rw [if_pos hext] at hbytes
    refine ⟨hbytes, ?_⟩
    rw [List.isEmpty_iff.mp hext]
    exact nofun
  · rw [if_neg hext] at hbytes
    refine ⟨fun x hx => hbytes x (List.mem_append_left _ hx), fun x hx => ?_⟩
    exact hbytes x (List.mem_append_right _ (List.mem_cons_of_mem _ hx))

/-- Small letters are not padding. -/
theorem unpadded_lowered (b : Bytes) : unpadded (lowered b) = lowered (unpadded b) := by
  have hpadding (x : UInt8) :
      ((if 0x41 ≤ x ∧ x ≤ 0x5A then x + 32 else x) == 0x20) = (x == 0x20) := by
    split
    · next hcapital =>
      have hlow : 0x41 ≤ x.toNat := hcapital.1
      have hhigh : x.toNat ≤ 0x5A := hcapital.2
      have hsum : (x + 32).toNat = x.toNat + 32 := by
        rw [UInt8.toNat_add]
        exact Nat.mod_eq_of_lt (by rw [show (32 : UInt8).toNat = 32 from rfl]; omega)
      have hblank : (0x20 : UInt8).toNat = 32 := rfl
      have hneither : x + 32 ≠ 0x20 ∧ x ≠ 0x20 := by
        constructor
        · intro heq
          rw [heq] at hsum
          omega
        · intro heq
          rw [heq] at hlow
          omega
      rw [beq_false_of_ne hneither.1, beq_false_of_ne hneither.2]
    · rfl
  unfold unpadded lowered
  rw [← List.map_reverse, List.dropWhile_map, ← List.map_reverse]
  congr 3
  funext x
  exact hpadding x

theorem lowered_dots {b : Bytes} (h : ∀ x ∈ b, x = 0x2E) : lowered b = b := by
  unfold lowered
  refine (List.map_congr_left fun x hx => ?_).trans (List.map_id b)
  rw [h x hx]
  rfl

/-- A name of dots is the same in small letters. -/
theorem cased_of_plain_dots {n : ShortName} (h : plain n = "..") (lowerBase lowerExt : Bool) :
    cased n lowerBase lowerExt = ".." := by
  obtain ⟨hbase, hext⟩ := dots_of_text h
  have hsame {b : Bytes} (hb : ∀ x ∈ unpadded b, x = 0x2E) (lower : Bool) :
      unpadded (if lower then lowered b else b) = unpadded b := by
    cases lower with
    | false => rfl
    | true => exact (unpadded_lowered b).trans (lowered_dots hb)
  rw [← h]
  unfold cased plain text
  rw [hsame hbase, hsame hext]

end ShortName

/-! ## Masked entries -/

namespace DirEntry
variable {e : DirEntry}

/-- An entry with the short name of the directory above that is shown under another name. -/
def IsMasked (e : DirEntry) : Prop := e.shortName = ".." ∧ e.name ≠ "." ∧ e.name ≠ ".."

theorem isDot_eq_false_iff : e.isDot = false ↔ e.name ≠ "." ∧ e.name ≠ ".." := by
  simp [isDot]

/-- **What `..` names.** -/
theorem answersTo_dots_iff : e.answersTo ".." = true ↔ e.IsMasked := by
  unfold answersTo IsMasked
  rw [Bool.and_eq_true, Bool.or_eq_true, Bool.not_eq_true', isDot_eq_false_iff,
    Text.sameLetters_dots_iff, Text.sameLetters_dots_iff]
  constructor
  · rintro ⟨hname, hdots | hdots⟩
    · exact absurd hdots hname.2
    · exact ⟨hdots, hname⟩
  · rintro ⟨hdots, hname⟩
    exact ⟨hname, .inr hdots⟩

/-- It takes a long name to mask an entry. -/
theorem IsMasked.longUnits_ne_nil (h : e.IsMasked) : e.longUnits ≠ [] := by
  intro hnone
  refine h.2.2 ?_
  unfold name
  rw [hnone]
  exact ShortName.cased_of_plain_dots h.1 _ _

end DirEntry

variable {δ : Type} [BlockDevice δ]

/-- What was found is what was looked for. -/
theorem Directory.find?_sound {v : Volume} {d : Directory} {p : DirEntry → Bool} {e : DirEntry}
    {x x' : BlockStream δ} (h : d.find? v p x = .ok (some e) x') : p e = true := by
  obtain ⟨shown, x₁, -, hfound⟩ := IoOn.of_bind_ok h
  have hfirst : shown.find? p = some e := (EStateM.Result.ok.inj hfound).1
  exact List.find?_some hfirst

namespace Volume

/-- **A path climbs**: from the directory that its components before the first `..` lead to, it goes
on through a masked entry. -/
def Climbs (v : Volume) (x : BlockStream δ) (path : String) (node : Node) : Prop :=
  ∃ (before after : List String) (d : Directory) (e : DirEntry) (x₁ x₂ x₃ : BlockStream δ),
    Path.components path = before ++ ".." :: after ∧ ".." ∉ before ∧
    v.walkFrom v.root before x = .ok (some (.directory d)) x₁ ∧
    d.find? v (DirEntry.answersTo "..") x₁ = .ok (some e) x₂ ∧ e.IsMasked ∧
    v.walkOn after (some (v.nodeOf e)) x₂ = .ok (some node) x₃

/-- A path with `..` among its components leads to something exactly if it climbs there. -/
theorem resolve_dots_iff {v : Volume} {x : BlockStream δ} {path : String} {node : Node}
    (hdots : ".." ∈ Path.components path) :
    (∃ x', v.resolve path x = .ok (some node) x') ↔ v.Climbs x path node := by
  constructor
  · rintro ⟨x', h⟩
    obtain ⟨before, after, hsplit, hfirst⟩ := List.eq_append_cons_of_mem hdots
    rw [resolve, hsplit, walkFrom_append] at h
    obtain ⟨reached, x₁, hbefore, hon⟩ := IoOn.of_bind_ok h
    rcases reached with _ | d | e
    · cases hon
    · rw [walkOn, walkFrom_cons] at hon
      obtain ⟨found, x₂, hfound, hafter⟩ := IoOn.of_bind_ok hon
      cases found with
      | none => cases hafter
      | some e =>
        have hmasked := DirEntry.answersTo_dots_iff.mp (Directory.find?_sound hfound)
        exact ⟨before, after, d, e, x₁, x₂, x', hsplit, hfirst, hbefore, hfound, hmasked, hafter⟩
    · rw [walkOn, if_neg (List.cons_ne_nil _ _)] at hon
      cases hon
  · rintro ⟨before, after, d, e, x₁, x₂, x₃, hsplit, -, hbefore, hfound, -, hafter⟩
    refine ⟨x₃, ?_⟩
    rw [resolve, hsplit, walkFrom_append, IoOn.bind_ok hbefore, walkOn, walkFrom_cons,
      IoOn.bind_ok hfound]
    exact hafter

end Volume

namespace Session
variable {s : Session δ} {v : Volume} {x : BlockStream δ}

theorem answer_locate_eq_ok_iff (hs : s.state = .mounted v x) {path : String}
    {found : Option Node} :
    answer (locate path s) = .ok found ↔ ∃ x', v.resolve path x = .ok found x' := by
  unfold locate
  rw [answer_onVolume hs, inDirectory]
  cases v.resolve path x <;> simp [answer]

/-- Where nothing is found, a listing says so and a read returns nothing, unless the walk failed. -/
theorem answers_of_not_found (hs : s.state = .mounted v x) {path : String}
    (h : ∀ node, answer (locate path s) ≠ .ok (some node)) :
    (answer (locate path s) = .ok none ∧ answer (list path s) = .error (.notFound path) ∧
      answer (read path s) = .ok none) ∨
    ∃ m, answer (locate path s) = .error (.ioFailure m) ∧
      answer (list path s) = .error (.ioFailure m) ∧
      answer (read path s) = .error (.ioFailure m) := by
  unfold list read
  unfold locate at h ⊢
  simp only [answer_onVolume hs, inDirectory_bind] at h ⊢
  unfold inDirectory at h ⊢
  generalize v.resolve path x = found at h ⊢
  rcases found with ⟨_ | node, x'⟩ | ⟨e, x'⟩
  · exact .inl ⟨rfl, rfl, rfl⟩
  · exact absurd rfl (h node)
  · exact .inr ⟨_, rfl, rfl, rfl⟩

/-- A listing shows the children among some entries. -/
theorem list_eq_visible (hs : s.state = .mounted v x) {path : String} {children : List Entry}
    (h : answer (list path s) = .ok children) : ∃ entries, children = visible entries := by
  unfold list at h
  rw [answer_onVolume hs, inDirectory_bind] at h
  generalize v.resolve path x = found at h
  rcases found with ⟨_ | d | e, x'⟩ | ⟨e, x'⟩
  · cases h
  · dsimp only at h
    rw [inDirectory_bind] at h
    generalize d.entries v x' = shown at h
    rcases shown with ⟨entries, x₁⟩ | ⟨e, x₁⟩
    · cases h
      exact ⟨entries, rfl⟩
    · cases h
  · cases h
  · cases h

/-- **Only masked entries lead up.**  On every device, whatever its reads bring, and on every
volume, a path with `..` among its components leads to something exactly if it climbs there, through
an entry that is masked.  Otherwise it leads nowhere, and neither is anything listed there nor read;
or a directory cannot be read, and the caller is told so.

No listing shows an entry under a name of dots, and no component names one that is shown under such
a name.  An entry can be masked only by a long name. -/
theorem climbs_only_through_masked (hs : s.state = .mounted v x) :
    (∀ path : String, ".." ∈ Path.components path →
      (∀ node, answer (locate path s) = .ok (some node) ↔ v.Climbs x path node) ∧
      ((∀ node, ¬ v.Climbs x path node) →
        (answer (locate path s) = .ok none ∧ answer (list path s) = .error (.notFound path) ∧
          answer (read path s) = .ok none) ∨
        ∃ m, answer (locate path s) = .error (.ioFailure m) ∧
          answer (list path s) = .error (.ioFailure m) ∧
          answer (read path s) = .error (.ioFailure m))) ∧
    (∀ path children, answer (list path s) = .ok children →
      ∀ child ∈ children, child.name ≠ "." ∧ child.name ≠ "..") ∧
    (∀ (d : Directory) (c : String) (e : DirEntry) (x₁ x₂ : BlockStream δ),
      d.find? v (DirEntry.answersTo c) x₁ = .ok (some e) x₂ → e.name ≠ "." ∧ e.name ≠ "..") ∧
    ∀ e : DirEntry, e.IsMasked → e.longUnits ≠ [] := by
  refine ⟨?_, ?_, ?_, fun e => DirEntry.IsMasked.longUnits_ne_nil⟩
  · intro path hdots
    have hclimbs (node : Node) :
        answer (locate path s) = .ok (some node) ↔ v.Climbs x path node :=
      (answer_locate_eq_ok_iff hs).trans (Volume.resolve_dots_iff hdots)
    refine ⟨hclimbs, fun hnot => answers_of_not_found hs fun node hfound => ?_⟩
    exact hnot node ((hclimbs node).mp hfound)
  · intro path children hlist child hmem
    obtain ⟨entries, rfl⟩ := list_eq_visible hs hlist
    obtain ⟨e, he, rfl⟩ := List.mem_map.mp hmem
    have hdot := (List.mem_filter.mp he).2
    exact DirEntry.isDot_eq_false_iff.mp (by simpa using hdot)
  · intro d c e x₁ x₂ hfound
    have hanswers := Directory.find?_sound hfound
    simp only [DirEntry.answersTo, Bool.and_eq_true, Bool.not_eq_true'] at hanswers
    exact DirEntry.isDot_eq_false_iff.mp hanswers.1

/-- In the directory, between its own entry and its end, the entry of the directory above under the
long name `up`. -/
def maskedDisk : Disk :=
  treeDisk (slotBytes ".          " 0x10 2 0 ++
    [0x41, 0x75, 0, 0x70, 0, 0, 0, 0xFF, 0xFF, 0xFF, 0xFF, 0x0F, 0, 0xC2, 0xFF, 0xFF, 0xFF, 0xFF,
      0xFF, 0xFF, 0xFF, 0xFF, 0xFF, 0xFF, 0xFF, 0xFF, 0, 0, 0xFF, 0xFF, 0xFF, 0xFF] ++
    slotBytes "..         " 0x10 0 0)

/-- On this disk a path climbs: the directory above is listed, and a file in it is read. -/
theorem climbs_only_through_masked_up :
    ∃ (s : Session Disk) (v : Volume) (x : BlockStream Disk) (d : Directory),
      openWith "stick" true (.ok maskedDisk) = .ok s ∧ s.state = .mounted v x ∧
      v.Climbs x "/d/.." (.directory d) ∧
      (answer (list "/d" s)).toOption = some [⟨"up", true⟩] ∧
      (answer (list "/d/.." s)).toOption = some [⟨"D", true⟩, ⟨"A", false⟩] ∧
      (answer (read "/d/../a" s)).toOption = some (some (Bytes.ofAscii "hi")) := by
  have hbelow : ((openWith "stick" true (.ok maskedDisk)).toOption.map fun s =>
      (isDirectoryAt "/d/.." s, (answer (list "/d" s)).toOption)) =
      some (true, some [⟨"up", true⟩]) := by decide +kernel
  have habove : ((openWith "stick" true (.ok maskedDisk)).toOption.map fun s =>
      ((answer (list "/d/.." s)).toOption, (answer (read "/d/../a" s)).toOption)) =
      some (some [⟨"D", true⟩, ⟨"A", false⟩], some (some (Bytes.ofAscii "hi"))) := by
    decide +kernel
  cases ho : openWith "stick" true (.ok maskedDisk) with
  | error r =>
    rw [ho] at hbelow
    cases hbelow
  | ok opened =>
    obtain ⟨s, -, v, x, hs, -, hstate, -⟩ := mirrors_opened (Disk.faultLog maskedDisk) rfl ho
    rw [hs] at hbelow habove ho
    obtain ⟨hdirectory, hup⟩ := Prod.mk.inj (Option.some.inj hbelow)
    obtain ⟨hlist, hread⟩ := Prod.mk.inj (Option.some.inj habove)
    obtain ⟨d, hlead⟩ := of_isDirectoryAt hdirectory
    have hclimbs := ((climbs_only_through_masked hstate).1 "/d/.." (by decide)).1
    exact ⟨s, v, x, d, ho.symm, hstate, (hclimbs _).mp hlead, hup, hlist, hread⟩

end Session
end ThumbDrive
