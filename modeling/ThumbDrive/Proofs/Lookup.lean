import ThumbDrive.Proofs.Paths

/-! # What is listed is found

A listing goes through a directory to its end.  A lookup goes through it on its own, and stops at
the first entry that the component names.  As long as neither fails they meet the same entries: a
lookup sees an initial part of what a listing sees (`walk_until`), and dot entries count for
neither.  So what a component names is the first of the entries shown that answers to it.

An entry always answers to the name it is shown under.  If no entry shown before does, the path with
that name behind it leads to this entry and no other; and whatever a further component leads to is
among the entries shown. -/
namespace ThumbDrive

variable {δ : Type} [BlockDevice δ]

/-! ## Walks that stop -/

/-- **A walk that stops early finds what is first in the whole directory.** -/
theorem DirCursor.walk_until (v : Volume) (stop : DirEntry → Bool) {slots : Nat}
    {pending : PendingName} {seen all : List DirEntry} {t t' : DirCursor × BlockStream δ}
    (h : walk v (fun _ => false) slots pending seen t = .ok all t')
    (hseen : ∀ e ∈ seen, stop e = false) :
    ∃ shown z, walk v stop slots pending seen t = .ok shown z ∧
      shown.find? stop = all.find? stop := by
  induction slots generalizing pending seen t with
  | zero =>
    cases h
    exact ⟨_, _, rfl, rfl⟩
  | succ slots ih =>
    simp only [walk] at h ⊢
    generalize slot? v t = next at h ⊢
    rcases next with ⟨_ | slot, t₁⟩ | ⟨e, t₁⟩
    · cases h
      exact ⟨_, _, rfl, rfl⟩
    · dsimp only at h ⊢
      generalize absorb pending slot = taken at h ⊢
      rcases taken with ⟨_ | entry, pending'⟩
      · exact ih h hseen
      · dsimp only at h ⊢
        rw [if_neg Bool.false_ne_true] at h
        by_cases hstop : stop entry = true
        · rw [if_pos hstop]
          refine ⟨_, _, rfl, ?_⟩
          -- the whole walk goes on, but what it meets later is not first
          obtain ⟨later, rfl⟩ := walk_extends v _ h
          have hfirst : (entry :: seen).reverse.find? stop = some entry := by
            have hnone : seen.reverse.find? stop = none := by
              refine List.find?_eq_none.mpr fun e he => ?_
              rw [hseen e (List.mem_reverse.mp he)]
              exact Bool.false_ne_true
            rw [List.reverse_cons, List.find?_append, hnone]
            simp [hstop]
          rw [List.find?_append, hfirst]
          rfl
        · rw [if_neg hstop]
          refine ih h fun e he => ?_
          rcases List.mem_cons.mp he with rfl | he
          · exact Bool.not_eq_true _ ▸ hstop
          · exact hseen e he
    · cases h

/-- Where a directory can be listed, a lookup finds the first entry of its kind. -/
theorem Directory.find?_of_entries {v : Volume} {d : Directory} {x x' : BlockStream δ}
    {all : List DirEntry} (h : d.entries v x = .ok all x') (p : DirEntry → Bool) :
    ∃ x₁, d.find? v p x = .ok (all.find? p) x₁ := by
  unfold entries entriesUntil at h
  cases hwalk : DirCursor.walk v (fun _ => false) DirCursor.slotLimit {} [] (d.start, x) with
  | error e z =>
    rw [hwalk] at h
    cases h
  | ok entries z =>
    rw [hwalk] at h
    cases h
    obtain ⟨shown, z₁, hshown, hfirst⟩ := DirCursor.walk_until v p hwalk nofun
    have huntil : d.entriesUntil v p x = .ok shown z₁.2 := by
      unfold entriesUntil
      rw [hshown]
    refine ⟨z₁.2, ?_⟩
    rw [find?, IoOn.bind_ok huntil, hfirst]
    rfl

/-! ## Entries that answer -/

namespace DirEntry

/-- An entry answers to the name it is shown under. -/
theorem answersTo_name {e : DirEntry} (h : e.isDot = false) : e.answersTo e.name = true := by
  simp [answersTo, h, Text.sameLetters]

/-- Dot entries answer to nothing, so they may be left out beforehand. -/
theorem find?_filter_isDot (c : String) (entries : List DirEntry) :
    (entries.filter fun e => !e.isDot).find? (answersTo c) = entries.find? (answersTo c) := by
  rw [List.find?_filter]
  congr 1
  funext e
  cases hdot : e.isDot <;> simp [answersTo, hdot]

/-- The first entry of its name answers to it. -/
theorem find?_of_first {shown : List DirEntry} {i : Nat} {e : DirEntry} (hi : shown[i]? = some e)
    (hdot : e.isDot = false)
    (hfirst : ∀ j e', j < i → shown[j]? = some e' →
      Text.sameLetters e'.name e.name = false ∧ Text.sameLetters e'.shortName e.name = false) :
    shown.find? (answersTo e.name) = some e := by
  obtain ⟨hlt, heq⟩ := List.getElem?_eq_some_iff.mp hi
  refine List.find?_eq_some_iff_getElem.mpr ⟨answersTo_name hdot, i, hlt, heq, ?_⟩
  intro j hj
  obtain ⟨hlong, hshort⟩ := hfirst j shown[j] hj (List.getElem?_eq_getElem _)
  simp [answersTo, hlong, hshort]

end DirEntry

theorem Volume.walkOn_nil (v : Volume) (node : Option Node) :
    (v.walkOn [] node : IoOn (BlockStream δ) _) = pure node := by
  rcases node with _ | d | e <;> rfl

namespace Session

/-! ## Parts of a call -/

/-- The entries of a directory. -/
def entriesOf (d : Directory) : EStateM StorageError (Session δ) (List DirEntry) :=
  onVolume fun v => inDirectory (d.entries v)

/-- The entry of a directory that a component names. -/
def childOf (d : Directory) (c : String) : EStateM StorageError (Session δ) (Option DirEntry) :=
  onVolume fun v => inDirectory (d.find? v (DirEntry.answersTo c))

/-- The contents of an entry's file. -/
def contentsOf (e : DirEntry) : EStateM StorageError (Session δ) Bytes := fun s =>
  s |> onVolume fun v => (fileStream v s.chunkSize e).contents

/-- What a listing does about where its path leads. -/
def listingAt (path : String) : Option Node → EStateM StorageError (Session δ) (List Entry)
  | none => throw (.notFound path)
  | some (.file _) => throw (.notADirectory path)
  | some (.directory d) => do return visible (← entriesOf d)

/-- What a read does about where its path leads. -/
def readingAt (path : String) : Option Node → EStateM StorageError (Session δ) (Option Bytes)
  | none => return none
  | some (.directory _) => throw (.isADirectory path)
  | some (.file e) => do return some (← contentsOf e)

section Bare
variable {w : Window} {bare : Session Disk} {v : Volume} {y : BlockStream Disk}

theorem answer_map {σ α β : Type} (f : α → β) (act : EStateM StorageError σ α) (s : σ) :
    answer ((do return f (← act)) s) = (answer (act s)).map f := by
  simp only [bind, EStateM.bind]
  cases act s <;> rfl

/-- A listing finds out where its path leads, and acts on it. -/
theorem answer_list (hb : bare.state = .mounted v y) (hy : w.Bare y) (path : String) :
    answer (list path bare) =
      (answer (locate path bare)).bind fun node => answer (listingAt path node bare) := by
  have hd := Disk.faultLog w.disk
  unfold list locate
  refine (answer_sequence hb hy (Volume.follows_resolve hd v path) ?_).trans ?_
  · intro node z hz
    rcases node with _ | d | e
    · rfl
    · dsimp only
      rw [answer_map, answer_map]
      exact congrArg _ (answer_inDirectory_steady
        (Directory.follows_entriesUntil hd v d fun _ => false) hz hy)
    · rfl
  · congr 1
    funext node
    rw [answer_onVolume hb]
    rcases node with _ | d | e
    · rfl
    · dsimp only [listingAt, entriesOf]
      rw [answer_map, answer_map, answer_onVolume hb]
    · rfl

/-- A read finds out where its path leads, and acts on it. -/
theorem answer_read (hb : bare.state = .mounted v y) (hy : w.Bare y) (path : String) :
    answer (read path bare) =
      (answer (locate path bare)).bind fun node => answer (readingAt path node bare) := by
  have hd := Disk.faultLog w.disk
  unfold read locate
  refine (answer_sequence hb hy (Volume.follows_resolve hd v path) ?_).trans ?_
  · intro node z hz
    rcases node with _ | d | e
    · rfl
    · rfl
    · dsimp only
      rw [answer_map, answer_map]
      exact congrArg _ ((FileStream.told_contents hd _ ⟨hz, hy⟩).quiet rfl)
  · congr 1
    funext node
    rw [answer_onVolume hb]
    rcases node with _ | d | e
    · rfl
    · rfl
    · dsimp only [readingAt]
      rw [answer_map, answer_map]
      exact congrArg _
        (answer_onVolume hb fun v => (fileStream v bare.chunkSize e).contents).symm

/-- A path with one more component leads to what the component names. -/
theorem answer_locate_child (hb : bare.state = .mounted v y) (hy : w.Bare y) {p c : String}
    {d : Directory} (hp : answer (locate p bare) = .ok (some (.directory d)))
    (hc : Path.components c = [c]) :
    answer (locate (p ++ "/" ++ c) bare) =
      (answer (childOf d c bare)).map fun found => found.map v.nodeOf := by
  have hwalk : inDirectory (v.walkFrom d [c]) y =
      (do return (← inDirectory (d.find? v (DirEntry.answersTo c))).map v.nodeOf) y := by
    rw [Volume.walkFrom_cons, inDirectory_bind, inDirectory, IoOn.bind_apply]
    cases d.find? v (DirEntry.answersTo c) y with
    | ok found z =>
      dsimp only
      rw [Volume.walkOn_nil]
      rfl
    | error e z => rfl
  rw [answer_locate_append hb hy, hp, Except.bind, hc, answer_onVolume hb]
  dsimp only [Volume.walkOn]
  rw [hwalk, answer_map]
  unfold childOf
  rw [answer_onVolume hb]

/-- What a component names is the first entry listed that answers to it. -/
theorem answer_childOf (hb : bare.state = .mounted v y) {d : Directory} {all : List DirEntry}
    (h : answer (entriesOf d bare) = .ok all) (c : String) :
    answer (childOf d c bare) = .ok (all.find? (DirEntry.answersTo c)) := by
  unfold entriesOf at h
  rw [answer_onVolume hb] at h
  unfold childOf
  rw [answer_onVolume hb]
  unfold inDirectory at h ⊢
  cases hentries : d.entries v y with
  | error e z =>
    rw [hentries] at h
    cases h
  | ok entries z =>
    rw [hentries] at h
    cases h
    obtain ⟨z₁, hfind⟩ := Directory.find?_of_entries hentries (DirEntry.answersTo c)
    rw [hfind]
    rfl

/-- A listing that succeeds is one of a directory. -/
theorem of_list_ok (hb : bare.state = .mounted v y) (hy : w.Bare y) {p : String}
    {children : List Entry} (h : answer (list p bare) = .ok children) :
    ∃ d all, answer (locate p bare) = .ok (some (.directory d)) ∧
      answer (entriesOf d bare) = .ok all ∧ children = visible all := by
  rw [answer_list hb hy] at h
  rcases hp : answer (locate p bare) with e | _ | d | e <;> rw [hp] at h
  · cases h
  · cases h
  · have hshown : (answer (entriesOf d bare)).map visible = .ok children := by
      rw [← answer_map]
      exact h
    cases hentries : answer (entriesOf d bare) with
    | error e =>
      rw [hentries] at hshown
      cases hshown
    | ok all =>
      rw [hentries] at hshown
      cases hshown
      exact ⟨d, all, rfl, hentries, rfl⟩
  · cases h

end Bare

variable {Sound : δ → Prop} {failures : δ → List IoError}

/-- **What is listed is found, and what is found is listed.**  On a device with fixed contents,
whatever was asked before and whatever failed then, an operation in the course of which no read
fails gives the answer of a session on the bare disk.  There, let the listing of a path succeed.  It
shows the entries of the directory the path leads to, without its dot entries and in their order.

Take one of them whose name is not empty and has no slash in it, and to whose name no long or short
name of an entry shown before is equal up to case.  Then the path with this name behind it leads to
that very entry: if it is a directory, a read says so, and a listing shows its entries; if it is a
file, a listing says so, and a read returns its contents.  Conversely, if the path with one
component behind it leads anywhere, it leads to one of the entries shown. -/
theorem listed_is_found {k : Disk} (hd : FaultLog k Sound failures) {name : String}
    {granted : Bool} {d : δ} (hs : Sound d) {opened : Session δ}
    (ho : openWith name granted (.ok d) = .ok opened) :
    ∃ (bare : Session Disk) (v : Volume), openWith name granted (.ok k) = .ok bare ∧
      Mirrors failures opened bare ∧ (∃ y, bare.state = .mounted v y) ∧
      ∀ (p : String) (children : List Entry), answer (list p bare) = .ok children →
        ∃ (d : Directory) (all shown : List DirEntry),
          answer (locate p bare) = .ok (some (.directory d)) ∧
          answer (entriesOf d bare) = .ok all ∧ shown = (all.filter fun e => !e.isDot) ∧
          (children = shown.map fun e => ⟨e.name, e.isDirectory⟩) ∧
          (∀ (i : Nat) (e : DirEntry), shown[i]? = some e →
            e.name ≠ "" → '/' ∉ e.name.toList →
            (∀ j e', j < i → shown[j]? = some e' →
              Text.sameLetters e'.name e.name = false ∧
              Text.sameLetters e'.shortName e.name = false) →
            let path := p ++ "/" ++ e.name
            answer (childOf d e.name bare) = .ok (some e) ∧
            answer (locate path bare) = .ok (some (v.nodeOf e)) ∧
            (e.isDirectory = true →
              answer (read path bare) = .error (.isADirectory path) ∧
              answer (list path bare) =
                (answer (entriesOf (v.directoryOf e) bare)).map visible) ∧
            (e.isDirectory = false →
              answer (list path bare) = .error (.notADirectory path) ∧
              answer (read path bare) = (answer (contentsOf e bare)).map some)) ∧
          ∀ (c : String) (node : Node), c ≠ "" → c ≠ "." → '/' ∉ c.toList →
            answer (locate (p ++ "/" ++ c) bare) = .ok (some node) →
            ∃ e ∈ shown, answer (childOf d c bare) = .ok (some e) ∧ node = v.nodeOf e := by
  obtain ⟨bare, w, v, y, hbare, hmirrors, hb, hy⟩ := mirrors_opened hd hs ho
  refine ⟨bare, v, hbare, hmirrors, ⟨y, hb⟩, ?_⟩
  intro p children hlist
  obtain ⟨d, all, hp, hall, hchildren⟩ := of_list_ok hb hy hlist
  refine ⟨d, all, all.filter fun e => !e.isDot, hp, hall, rfl, hchildren, ?_, ?_⟩
  · intro i e hi hne hslash hfirst path
    have hdot : e.isDot = false := by
      simpa using (List.mem_filter.mp (List.mem_of_getElem? hi)).2
    have hname : e.name ≠ "." := by
      intro heq
      simp [DirEntry.isDot, heq] at hdot
    have hchild : answer (childOf d e.name bare) = .ok (some e) := by
      rw [answer_childOf hb hall, ← DirEntry.find?_filter_isDot,
        DirEntry.find?_of_first hi hdot hfirst]
    have hpath : answer (locate path bare) = .ok (some (v.nodeOf e)) := by
      rw [answer_locate_child hb hy hp (Path.components_single hslash hne hname), hchild]
      rfl
    refine ⟨hchild, hpath, ?_, ?_⟩
    · intro hdirectory
      have hnode : v.nodeOf e = .directory (v.directoryOf e) := if_pos hdirectory
      rw [hnode] at hpath
      rw [answer_read hb hy, answer_list hb hy, hpath]
      exact ⟨rfl, answer_map _ _ _⟩
    · intro hfile
      have hnode : v.nodeOf e = .file e := if_neg (by rw [hfile]; exact Bool.false_ne_true)
      rw [hnode] at hpath
      rw [answer_read hb hy, answer_list hb hy, hpath]
      exact ⟨rfl, answer_map _ _ _⟩
  · intro c node hne hdot hslash hnode
    have hchild := answer_childOf hb hall c
    rw [answer_locate_child hb hy hp (Path.components_single hslash hne hdot), hchild] at hnode
    obtain ⟨e, he, hsome⟩ := Option.map_eq_some_iff.mp (Except.ok.inj hnode)
    rw [he] at hchild
    rw [← DirEntry.find?_filter_isDot] at he
    exact ⟨e, List.mem_of_find?_eq_some he, hchild, hsome.symm⟩

/-- The first listing fails.  The next one shows a file with a long name, behind two dot entries,
and under that name it is read. -/
theorem listed_is_found_notes :
    let probe : Logged Probe :=
      { device := { disk := notesDisk, faults := [⟨2, some 1, .other "unplugged"⟩] } }
    ∃ (opened : Session (Logged Probe)) (bare : Session Disk) (e : DirEntry),
      openWith "stick" true (.ok probe) = .ok opened ∧
      openWith "stick" true (.ok notesDisk) = .ok bare ∧
      (opened.askAll [.list "/"]).device.log = [.other "unplugged"] ∧
      answer (list "/d" bare) = .ok [⟨"my notes.txt", false⟩] ∧ e.name = "my notes.txt" ∧
      answer (list "/d/my notes.txt" bare) = .error (.notADirectory "/d/my notes.txt") ∧
      answer (read "/d/my notes.txt" (opened.askAll [.list "/"])) =
        (answer (contentsOf e bare)).map some := by
  intro probe
  have hprobe : ((openWith "stick" true (.ok probe)).toOption.map fun s =>
      ((s.askAll [.list "/"]).device.log,
        (leaves (read "/d/my notes.txt" (s.askAll [.list "/"]))).device.log)) =
      some ([.other "unplugged"], [.other "unplugged"]) := by decide +kernel
  have hdisk : ((openWith "stick" true (.ok notesDisk)).toOption.bind fun s =>
      (answer (list "/d" s)).toOption) = some [⟨"my notes.txt", false⟩] := by decide +kernel
  cases ho : openWith "stick" true (.ok probe) with
  | error r =>
    rw [ho] at hprobe
    cases hprobe
  | ok opened =>
    obtain ⟨bare, v, hbare, hmirrors, -, hall⟩ := listed_is_found
      (Logged.faultLog (Probe.fixedContents notesDisk)) (d := probe) rfl ho
    rw [ho] at hprobe
    rw [hbare] at hdisk
    obtain ⟨hlog, hquiet⟩ := Prod.mk.inj (Option.some.inj hprobe)
    have hlist : answer (list "/d" bare) = .ok [⟨"my notes.txt", false⟩] := by
      have hdisk' : (answer (list "/d" bare)).toOption = some [⟨"my notes.txt", false⟩] := hdisk
      cases hanswer : answer (list "/d" bare) with
      | error err =>
        rw [hanswer] at hdisk'
        cases hdisk'
      | ok children =>
        rw [hanswer] at hdisk'
        rw [Option.some.inj hdisk']
    obtain ⟨d, all, shown, -, -, -, hchildren, hfound, -⟩ := hall "/d" _ hlist
    obtain ⟨e, rfl, hentry⟩ := List.map_eq_singleton_iff.mp hchildren.symm
    obtain ⟨hname, hkind⟩ := Entry.mk.inj hentry
    obtain ⟨-, -, -, hfile⟩ := hfound 0 e rfl (by rw [hname]; decide) (by rw [hname]; decide) nofun
    obtain ⟨hlisted, hread⟩ := hfile hkind
    have hpath : "/d" ++ "/" ++ e.name = "/d/my notes.txt" := by
      rw [hname]
      decide
    rw [hpath] at hlisted hread
    have hmirror := hmirrors.reads "/d/my notes.txt" [.list "/"] (hquiet.trans hlog.symm)
    exact ⟨opened, bare, e, rfl, hbare, hlog, hlist, hname, hlisted, hmirror.trans hread⟩

end Session
end ThumbDrive
