import IdlBuild.FileSystem.Requests

/-!
# Where pieces lead

A walk passes a piece that is a directory or a link to one, and stops at every other
(`passes_or_stops`), in one of three ways (`passes_or_ends`). `Leads` says where a walk ends that
passes all pieces of a path, and how many links may still be followed from there. A path is followed
by way of where its front leads (`follow_of_leads`); pieces that lead nowhere fail alike whatever
comes after them (`leads_or_error`). More entries do not change where pieces lead (`Leads.mono`).
-/

namespace IdlBuild.FileSystem

/-! ### Entries -/

theorem isName_of_node {fs : FileSystem} {directory : Location} {name : FileName} {node : Node}
    (h : fs.node? (directory ++ [name]) = some node) :
    IsName name ∧ ∀ part ∈ directory, IsName part := by
  have hmem := (node?_eq_some_iff fs (by simp)).1 h
  exact ⟨fs.named _ hmem name (by simp), fun part hpart => fs.named _ hmem part (by simp [hpart])⟩

theorem isDirectory_of_node {fs : FileSystem} {directory : Location} {name : FileName} {node : Node}
    (h : fs.node? (directory ++ [name]) = some node) : fs.IsDirectory directory := by
  have hmem := (node?_eq_some_iff fs (by simp)).1 h
  have hup := (fs.rooted _ hmem).2
  rwa [List.dropLast_concat] at hup

theorem not_isLost_of_isName {directory : Location} (h : ∀ part ∈ directory, IsName part) :
    ¬ IsLost directory := by
  intro hlost
  exact (h [] (List.mem_of_getLast? hlost)).1 rfl

theorem IsDirectory.not_isLost {fs : FileSystem} {directory : Location}
    (h : fs.IsDirectory directory) : ¬ IsLost directory :=
  not_isLost_of_isName fun _ hpart => fs.isName_of_mem_directory h hpart

theorem IsDirectory.dropLast {fs : FileSystem} {directory : Location}
    (h : fs.IsDirectory directory) : fs.IsDirectory directory.dropLast := by
  rcases h with rfl | hmem
  · exact Or.inl rfl
  · exact (fs.rooted _ hmem).2

/-- Whether all that stands in one file system stands in another, and both are seen from the same
working directory. -/
structure KeptIn (fs fs' : FileSystem) : Prop where
  node : ∀ {location : Location} {node : Node}, fs.node? location = some node →
    fs'.node? location = some node
  workingDirectory : fs'.workingDirectory = fs.workingDirectory

theorem KeptIn.trans {fs fs' fs'' : FileSystem} (h : KeptIn fs fs') (h' : KeptIn fs' fs'') :
    KeptIn fs fs'' :=
  ⟨fun hnode => h'.node (h.node hnode), h'.workingDirectory.trans h.workingDirectory⟩

theorem KeptIn.isDirectory {fs fs' : FileSystem} (h : KeptIn fs fs') {directory : Location}
    (hd : fs.IsDirectory directory) : fs'.IsDirectory directory :=
  (isDirectory_iff fs' directory).2 (h.node ((isDirectory_iff fs directory).1 hd))

theorem KeptIn.mem {fs fs' : FileSystem} (h : KeptIn fs fs') {e : Location × Node}
    (he : e ∈ fs.entries) : e ∈ fs'.entries := by
  have hroot := (fs.rooted e he).1
  exact (node?_eq_some_iff fs' hroot).1 (h.node ((node?_eq_some_iff fs hroot).2 he))

theorem KeptIn.start {fs fs' : FileSystem} (h : KeptIn fs fs') (p : Path) :
    fs'.start p = fs.start p := by
  unfold FileSystem.start
  rw [h.workingDirectory]

/-! ### Single pieces -/

section Pieces

variable {fs : FileSystem} {followLast : Bool} {links : Nat} {directory : Location}
  {piece : FileName} {rest : List FileName}

theorem follow_nil :
    fs.follow followLast links directory [] = .ok (.found directory .directory) := by
  unfold follow
  rfl

theorem follow_here :
    fs.follow followLast links directory ([dot] :: rest)
      = fs.follow followLast links directory rest := by
  conv => lhs; unfold follow
  conv => rhs; unfold follow
  rfl

theorem follow_up :
    fs.follow followLast links directory ([dot, dot] :: rest)
      = fs.follow followLast links directory.dropLast rest := by
  conv => lhs; unfold follow
  conv => rhs; unfold follow
  rfl

theorem walk_name (fs : FileSystem) (followLast : Bool) (rest : List FileName)
    (hname : IsName piece) (hlost : ¬ IsLost directory) :
    fs.walk followLast directory (piece :: rest) =
      match fs.node? (directory ++ [piece]) with
      | none => if rest = [] then .ok (.arrived (.vacant directory piece)) else .error .noSuchEntry
      | some .directory => fs.walk followLast (directory ++ [piece]) rest
      | some (.file content mode) =>
        if rest = [] then .ok (.arrived (.found (directory ++ [piece]) (.file content mode)))
        else .error .notDirectory
      | some (.link target) =>
        if rest = [] ∧ followLast = false then
          .ok (.arrived (.found (directory ++ [piece]) (.link target)))
        else .ok (.link target directory rest) := by
  obtain ⟨-, hdot, hup, -, -, hsize⟩ := hname
  conv => lhs; unfold walk
  rewrite [if_neg hdot, if_neg hup, if_neg hlost, if_neg (Nat.not_lt.2 hsize)]
  rfl

theorem follow_into (h : fs.node? (directory ++ [piece]) = some .directory) :
    fs.follow followLast links directory (piece :: rest)
      = fs.follow followLast links (directory ++ [piece]) rest := by
  obtain ⟨hname, hparts⟩ := isName_of_node h
  have hwalk := walk_name fs followLast rest hname (not_isLost_of_isName hparts)
  rw [h] at hwalk
  conv => lhs; unfold follow
  conv => rhs; unfold follow
  rw [hwalk]

theorem follow_through {target : Path} (h : fs.node? (directory ++ [piece]) = some (.link target))
    (hrest : rest ≠ [] ∨ followLast = true) :
    fs.follow followLast links directory (piece :: rest) =
      match links with
      | 0 => .error .tooManyLinks
      | links + 1 =>
        fs.follow followLast links (if target.isAbsolute then [] else directory)
          (steps target ++ rest) := by
  obtain ⟨hname, hparts⟩ := isName_of_node h
  have hwalk := walk_name fs followLast rest hname (not_isLost_of_isName hparts)
  have hfollow : ¬ (rest = [] ∧ followLast = false) := by
    rintro ⟨hnil, hfalse⟩
    rcases hrest with hrest | hrest
    · exact hrest hnil
    · rw [hfalse] at hrest
      cases hrest
  rw [h] at hwalk
  simp only [if_neg hfollow] at hwalk
  conv => lhs; unfold follow
  rewrite [hwalk]
  rfl

theorem follow_file {content : Text.Bytes} {mode : Nat}
    (h : fs.node? (directory ++ [piece]) = some (.file content mode)) (hrest : rest ≠ []) :
    fs.follow followLast links directory (piece :: rest) = .error .notDirectory := by
  obtain ⟨hname, hparts⟩ := isName_of_node h
  have hwalk := walk_name fs followLast rest hname (not_isLost_of_isName hparts)
  rw [h] at hwalk
  simp only [if_neg hrest] at hwalk
  conv => lhs; unfold follow
  rw [hwalk]

theorem follow_missing (hname : IsName piece) (hlost : ¬ IsLost directory)
    (h : fs.node? (directory ++ [piece]) = none) (hrest : rest ≠ []) :
    fs.follow followLast links directory (piece :: rest) = .error .noSuchEntry := by
  have hwalk := walk_name fs followLast rest hname hlost
  rw [h] at hwalk
  simp only [if_neg hrest] at hwalk
  conv => lhs; unfold follow
  rw [hwalk]

theorem follow_last (hname : IsName piece) (hlost : ¬ IsLost directory) :
    fs.follow false links directory [piece] =
      match fs.node? (directory ++ [piece]) with
      | none => .ok (.vacant directory piece)
      | some node => .ok (.found (directory ++ [piece]) node) := by
  have hwalk := walk_name fs false [] hname hlost
  conv => lhs; unfold follow
  rw [hwalk]
  cases fs.node? (directory ++ [piece]) with
  | none => simp
  | some node =>
    cases node with
    | directory => simp [walk]
    | file content mode => simp
    | link target => simp

/-- A walk takes its pieces one after another. -/
theorem follow_cons (fs : FileSystem) (followLast : Bool) (links : Nat) (directory : Location)
    (piece : FileName) (rest : List FileName) :
    fs.follow followLast links directory (piece :: rest) =
      if piece = [dot] then fs.follow followLast links directory rest
      else if piece = [dot, dot] then fs.follow followLast links directory.dropLast rest
      else if IsLost directory then .error .noSuchEntry
      else if nameLimit < piece.length then .error .nameTooLong
      else match fs.node? (directory ++ [piece]) with
        | none => if rest = [] then .ok (.vacant directory piece) else .error .noSuchEntry
        | some .directory => fs.follow followLast links (directory ++ [piece]) rest
        | some (.file content mode) =>
          if rest = [] then .ok (.found (directory ++ [piece]) (.file content mode))
          else .error .notDirectory
        | some (.link target) =>
          if rest = [] ∧ followLast = false then
            .ok (.found (directory ++ [piece]) (.link target))
          else match links with
            | 0 => .error .tooManyLinks
            | links + 1 =>
              fs.follow followLast links (if target.isAbsolute then [] else directory)
                (steps target ++ rest) := by
  by_cases hdot : piece = [dot]
  · rw [if_pos hdot, hdot, follow_here]
  by_cases hup : piece = [dot, dot]
  · rw [if_neg hdot, if_pos hup, hup, follow_up]
  by_cases hlost : IsLost directory
  · simp [follow, walk, hdot, hup, hlost]
  by_cases hsize : nameLimit < piece.length
  · simp [follow, walk, hdot, hup, hlost, hsize]
  rw [if_neg hdot, if_neg hup, if_neg hlost, if_neg hsize]
  cases hnode : fs.node? (directory ++ [piece]) with
  | none =>
    by_cases hrest : rest = []
    · simp [follow, walk, hdot, hup, hlost, hsize, hnode, hrest]
    · simp [follow, walk, hdot, hup, hlost, hsize, hnode, hrest]
  | some node =>
    cases node with
    | directory => exact follow_into hnode
    | file content mode =>
      by_cases hrest : rest = []
      · simp [follow, walk, hdot, hup, hlost, hsize, hnode, hrest]
      · simp [follow, walk, hdot, hup, hlost, hsize, hnode, hrest]
    | link target =>
      by_cases hstay : rest = [] ∧ followLast = false
      · simp [follow, walk, hdot, hup, hlost, hsize, hnode, hstay]
      · have hgo : rest ≠ [] ∨ followLast = true := by
          by_cases hrest : rest = []
          · exact Or.inr (by simpa [hrest] using hstay)
          · exact Or.inl hrest
        simp only [if_neg hstay]
        exact follow_through hnode hgo

/-- What has a name in a directory is found there, a link only when it is not followed. -/
theorem follow_found_last {node : Node} (h : fs.node? (directory ++ [piece]) = some node)
    (hne : node ≠ .directory) (hstay : ∀ target, node = .link target → followLast = false) :
    fs.follow followLast links directory [piece] = .ok (.found (directory ++ [piece]) node) := by
  obtain ⟨⟨-, hdot, hup, -, -, hsize⟩, hparts⟩ := isName_of_node h
  rw [follow_cons, if_neg hdot, if_neg hup, if_neg (not_isLost_of_isName hparts),
    if_neg (Nat.not_lt.2 hsize), h]
  cases node with
  | directory => exact absurd rfl hne
  | file content mode => rfl
  | link target => simp [hstay target rfl]

end Pieces

/-! ### Pieces on the way -/

/-- How a walk passes a piece that is a directory or a link to one: from where it goes on, how many
links may still be followed there, and what pieces come in the place of the piece. -/
inductive Passes (fs : FileSystem) : Nat → Location → FileName → Nat → Location → List FileName → Prop
    where
  | here {links : Nat} {directory : Location} : Passes fs links directory [dot] links directory []
  | up {links : Nat} {directory : Location} :
      Passes fs links directory [dot, dot] links directory.dropLast []
  | into {links : Nat} {directory : Location} {piece : FileName}
      (hnode : fs.node? (directory ++ [piece]) = some .directory) :
      Passes fs links directory piece links (directory ++ [piece]) []
  | through {links : Nat} {directory : Location} {piece : FileName} {target : Path}
      (hnode : fs.node? (directory ++ [piece]) = some (.link target)) :
      Passes fs (links + 1) directory piece links (if target.isAbsolute then [] else directory)
        (steps target)

/-- Whether a walk does not pass a piece: with more behind it the walk fails, and with nothing
behind it the walk does not find a directory. -/
structure Stops (fs : FileSystem) (links : Nat) (directory : Location) (piece : FileName) : Prop where
  behind : ∃ fault, ∀ followLast rest, rest ≠ [] →
    fs.follow followLast links directory (piece :: rest) = .error fault
  last : ∀ location, fs.follow true links directory [piece] ≠ .ok (.found location .directory)

/-- How a walk ends at a piece that it does not pass: it fails, or this is its last piece and it
arrives at a free name, at a file or at a link that is not to be followed. -/
inductive Ends (fs : FileSystem) (followLast : Bool) (directory : Location) (piece : FileName)
    (rest : List FileName) : Except IoFault Place → Prop where
  | failed {fault : IoFault}
      (hfault : fault ∈ [IoFault.noSuchEntry, .notDirectory, .nameTooLong, .tooManyLinks]) :
      Ends fs followLast directory piece rest (.error fault)
  | vacant (hrest : rest = []) (hdot : piece ≠ [dot]) (hup : piece ≠ [dot, dot])
      (hlost : ¬ IsLost directory) (hsize : ¬ nameLimit < piece.length)
      (hnode : fs.node? (directory ++ [piece]) = none) :
      Ends fs followLast directory piece rest (.ok (.vacant directory piece))
  | found {node : Node} (hrest : rest = []) (hnode : fs.node? (directory ++ [piece]) = some node)
      (hne : node ≠ .directory) (hstay : ∀ target, node = .link target → followLast = false) :
      Ends fs followLast directory piece rest (.ok (.found (directory ++ [piece]) node))

section Passing

variable {fs fs' : FileSystem} {links links' : Nat} {directory directory' : Location}
  {piece : FileName} {more : List FileName}

theorem Passes.mono (hkept : KeptIn fs fs')
    (h : Passes fs links directory piece links' directory' more) :
    Passes fs' links directory piece links' directory' more := by
  cases h with
  | here => exact .here
  | up => exact .up
  | into hnode => exact .into (hkept.node hnode)
  | through hnode => exact .through (hkept.node hnode)

theorem Passes.isDirectory (h : Passes fs links directory piece links' directory' more)
    (hd : fs.IsDirectory directory) : fs.IsDirectory directory' := by
  cases h with
  | here => exact hd
  | up => exact hd.dropLast
  | into hnode => exact (isDirectory_iff fs _).2 hnode
  | through hnode =>
    split
    · exact Or.inl rfl
    · exact hd

/-- Less is left to follow: a link is used up, or the piece is. -/
theorem Passes.lessens (h : Passes fs links directory piece links' directory' more)
    (pieces : List FileName) :
    Prod.Lex (· < ·) (· < ·) (links', (more ++ pieces).length)
      (links, (piece :: pieces).length) := by
  cases h with
  | here => exact Prod.Lex.right _ (Nat.lt_succ_self _)
  | up => exact Prod.Lex.right _ (Nat.lt_succ_self _)
  | into hnode => exact Prod.Lex.right _ (Nat.lt_succ_self _)
  | through hnode => exact Prod.Lex.left _ _ (Nat.lt_succ_self _)

/-- Only a link has to be followed to be passed. -/
theorem follow_of_passing {followLast : Bool} {rest : List FileName}
    (h : Passes fs links directory piece links' directory' more)
    (hlink : ∀ target, fs.node? (directory ++ [piece]) = some (.link target) →
      rest ≠ [] ∨ followLast = true) :
    fs.follow followLast links directory (piece :: rest)
      = fs.follow followLast links' directory' (more ++ rest) := by
  cases h with
  | here => exact follow_here
  | up => exact follow_up
  | into hnode => exact follow_into hnode
  | through hnode => exact follow_through hnode (hlink _ hnode)

theorem follow_of_passes {followLast : Bool} {rest : List FileName}
    (h : Passes fs links directory piece links' directory' more)
    (hrest : rest ≠ [] ∨ followLast = true) :
    fs.follow followLast links directory (piece :: rest)
      = fs.follow followLast links' directory' (more ++ rest) :=
  follow_of_passing h fun _ _ => hrest

theorem stops_of_error (fault : IoFault)
    (h : ∀ followLast rest, fs.follow followLast links directory (piece :: rest) = .error fault) :
    Stops fs links directory piece :=
  ⟨⟨fault, fun followLast rest _ => h followLast rest⟩, fun location => by simp [h]⟩

theorem passes_or_stops (fs : FileSystem) (links : Nat) (directory : Location) (piece : FileName) :
    (∃ links' directory' more, Passes fs links directory piece links' directory' more) ∨
      Stops fs links directory piece := by
  by_cases hdot : piece = [dot]
  · subst hdot
    exact Or.inl ⟨_, _, _, .here⟩
  by_cases hup : piece = [dot, dot]
  · subst hup
    exact Or.inl ⟨_, _, _, .up⟩
  by_cases hlost : IsLost directory
  · refine Or.inr (stops_of_error .noSuchEntry fun followLast rest => ?_)
    simp [follow, walk, hdot, hup, hlost]
  by_cases hsize : nameLimit < piece.length
  · refine Or.inr (stops_of_error .nameTooLong fun followLast rest => ?_)
    simp [follow, walk, hdot, hup, hlost, hsize]
  cases hnode : fs.node? (directory ++ [piece]) with
  | none =>
    refine Or.inr ⟨⟨.noSuchEntry, fun followLast rest hrest => ?_⟩, fun location => ?_⟩
    · simp [follow, walk, hdot, hup, hlost, hsize, hnode, hrest]
    · simp [follow, walk, hdot, hup, hlost, hsize, hnode]
  | some node =>
    cases node with
    | directory => exact Or.inl ⟨_, _, _, .into hnode⟩
    | file content mode =>
      refine Or.inr ⟨⟨.notDirectory, fun followLast rest hrest => ?_⟩, fun location => ?_⟩
      · exact follow_file hnode hrest
      · simp [follow, walk, hdot, hup, hlost, hsize, hnode]
    | link target =>
      cases links with
      | zero =>
        refine Or.inr ⟨⟨.tooManyLinks, fun followLast rest hrest => ?_⟩, fun location => ?_⟩
        · rw [follow_through hnode (Or.inl hrest)]
        · rw [follow_through hnode (Or.inr rfl)]
          simp
      | succ links => exact Or.inl ⟨_, _, _, .through hnode⟩

theorem passes_or_ends (fs : FileSystem) (followLast : Bool) (links : Nat) (directory : Location)
    (piece : FileName) (rest : List FileName) :
    (∃ links' directory' more, Passes fs links directory piece links' directory' more ∧
      ∀ target, fs.node? (directory ++ [piece]) = some (.link target) →
        rest ≠ [] ∨ followLast = true) ∨
      Ends fs followLast directory piece rest
        (fs.follow followLast links directory (piece :: rest)) := by
  by_cases hdot : piece = [dot]
  · subst hdot
    exact Or.inl ⟨_, _, _, .here, fun _ hnode => absurd rfl (isName_of_node hnode).1.2.1⟩
  by_cases hup : piece = [dot, dot]
  · subst hup
    exact Or.inl ⟨_, _, _, .up, fun _ hnode => absurd rfl (isName_of_node hnode).1.2.2.1⟩
  rw [follow_cons, if_neg hdot, if_neg hup]
  by_cases hlost : IsLost directory
  · rw [if_pos hlost]
    exact Or.inr (.failed (by simp))
  by_cases hsize : nameLimit < piece.length
  · rw [if_neg hlost, if_pos hsize]
    exact Or.inr (.failed (by simp))
  rw [if_neg hlost, if_neg hsize]
  cases hnode : fs.node? (directory ++ [piece]) with
  | none =>
    by_cases hrest : rest = []
    · simp only [if_pos hrest]
      exact Or.inr (.vacant hrest hdot hup hlost hsize hnode)
    · simp only [if_neg hrest]
      exact Or.inr (.failed (by simp))
  | some node =>
    cases node with
    | directory => exact Or.inl ⟨_, _, _, .into hnode, fun _ hlink => by cases hlink⟩
    | file content mode =>
      by_cases hrest : rest = []
      · simp only [if_pos hrest]
        exact Or.inr (.found hrest hnode (by simp) (by simp))
      · simp only [if_neg hrest]
        exact Or.inr (.failed (by simp))
    | link target =>
      by_cases hstay : rest = [] ∧ followLast = false
      · simp only [if_pos hstay]
        exact Or.inr (.found hstay.1 hnode (by simp) fun _ _ => hstay.2)
      · simp only [if_neg hstay]
        cases links with
        | zero => exact Or.inr (.failed (by simp))
        | succ links =>
          refine Or.inl ⟨_, _, _, .through hnode, fun _ _ => ?_⟩
          by_cases hrest : rest = []
          · exact Or.inr (by simpa [hrest] using hstay)
          · exact Or.inl hrest

end Passing

/-! ### Several pieces -/

/-- Where a walk along pieces ends that are all directories or links to them, and the number of
links that may still be followed. -/
inductive Leads (fs : FileSystem) : Nat → Location → List FileName → Nat → Location → Prop where
  | done {links : Nat} {directory : Location} : Leads fs links directory [] links directory
  | pass {links links' left : Nat} {directory directory' last : Location} {piece : FileName}
      {more rest : List FileName} (hpass : Passes fs links directory piece links' directory' more)
      (hrest : Leads fs links' directory' (more ++ rest) left last) :
      Leads fs links directory (piece :: rest) left last

namespace Leads

variable {fs fs' : FileSystem} {links left : Nat} {directory last : Location}
  {pieces rest : List FileName}

theorem into {name : FileName} (h : fs.node? (directory ++ [name]) = some .directory) :
    Leads fs links directory [name] links (directory ++ [name]) :=
  .pass (.into h) .done

theorem mono (hkept : KeptIn fs fs') (h : Leads fs links directory pieces left last) :
    Leads fs' links directory pieces left last := by
  induction h with
  | done => exact .done
  | pass hpass hrest ih => exact .pass (hpass.mono hkept) ih

theorem isDirectory (h : Leads fs links directory pieces left last)
    (hd : fs.IsDirectory directory) : fs.IsDirectory last := by
  induction h with
  | done => exact hd
  | pass hpass hrest ih => exact ih (hpass.isDirectory hd)

theorem append {links' : Nat} {last' : Location}
    (h : Leads fs links directory pieces left last) (h' : Leads fs left last rest links' last') :
    Leads fs links directory (pieces ++ rest) links' last' := by
  induction h with
  | done => exact h'
  | pass hpass hrest ih =>
    have hall := ih h'
    rw [List.append_assoc] at hall
    exact .pass hpass hall

/-- A walk goes through the end of every front of its pieces. -/
theorem exists_of_append {front back : List FileName}
    (h : Leads fs links directory (front ++ back) left last) :
    ∃ links' last', Leads fs links directory front links' last' ∧
      Leads fs links' last' back left last := by
  generalize hpieces : front ++ back = pieces at h
  induction h generalizing front with
  | done =>
    obtain ⟨rfl, rfl⟩ := List.append_eq_nil_iff.1 hpieces
    exact ⟨_, _, .done, .done⟩
  | @pass links links' left directory directory' last piece more rest hpass hrest ih =>
    cases front with
    | nil =>
      obtain rfl : back = piece :: rest := hpieces
      exact ⟨_, _, .done, .pass hpass hrest⟩
    | cons first front =>
      rw [List.cons_append, List.cons.injEq] at hpieces
      obtain ⟨rfl, hrest'⟩ := hpieces
      have hmore : (more ++ front) ++ back = more ++ rest := by rw [List.append_assoc, hrest']
      obtain ⟨links', last', hfront, hback⟩ := ih hmore
      exact ⟨links', last', .pass hpass hfront, hback⟩

end Leads

section Following

variable {fs : FileSystem} {followLast : Bool} {links left : Nat} {directory last : Location}
  {pieces rest : List FileName}

theorem follow_of_leads (h : Leads fs links directory pieces left last)
    (hrest : rest ≠ [] ∨ followLast = true) :
    fs.follow followLast links directory (pieces ++ rest)
      = fs.follow followLast left last rest := by
  induction h with
  | done => rfl
  | @pass links links' left directory directory' last piece more pieces hpass hfurther ih =>
    have hmore : pieces ++ rest ≠ [] ∨ followLast = true :=
      hrest.imp_left fun hne hnil => hne (List.append_eq_nil_iff.1 hnil).2
    rw [List.cons_append, follow_of_passes hpass hmore, ← List.append_assoc, ih]

/-- Pieces that lead nowhere fail in the same way whatever comes after them. -/
theorem leads_or_error (fs : FileSystem) : (links : Nat) → (directory : Location) →
    (pieces : List FileName) →
    (∃ left last, Leads fs links directory pieces left last) ∨
      ∃ fault, ∀ followLast rest, rest ≠ [] →
        fs.follow followLast links directory (pieces ++ rest) = .error fault
  | links, directory, [] => Or.inl ⟨links, directory, .done⟩
  | links, directory, piece :: pieces => by
    have hmore : ∀ {rest : List FileName}, rest ≠ [] → pieces ++ rest ≠ [] :=
      fun hrest hnil => hrest (List.append_eq_nil_iff.1 hnil).2
    rcases passes_or_stops fs links directory piece with
      ⟨links', directory', more, hpass⟩ | ⟨⟨fault, hstop⟩, -⟩
    · have hless := hpass.lessens pieces
      rcases leads_or_error fs links' directory' (more ++ pieces) with
        ⟨left, last, h⟩ | ⟨fault, h⟩
      · exact Or.inl ⟨left, last, .pass hpass h⟩
      · refine Or.inr ⟨fault, fun followLast rest hrest => ?_⟩
        rw [List.cons_append, follow_of_passes hpass (Or.inl (hmore hrest)), ← List.append_assoc,
          h followLast rest hrest]
    · exact Or.inr ⟨fault, fun followLast rest hrest => hstop followLast _ (hmore hrest)⟩
termination_by links _ pieces => (links, pieces.length)
decreasing_by exact hless

theorem leads_of_follow (fs : FileSystem) : (links : Nat) → (directory : Location) →
    (pieces : List FileName) → {last : Location} →
    fs.follow true links directory pieces = .ok (.found last .directory) →
    ∃ left, Leads fs links directory pieces left last
  | links, directory, [], last, h => by
    rw [follow_nil] at h
    cases h
    exact ⟨links, .done⟩
  | links, directory, piece :: pieces, last, h => by
    rcases passes_or_stops fs links directory piece with
      ⟨links', directory', more, hpass⟩ | ⟨⟨fault, hstop⟩, hlast⟩
    · have hless := hpass.lessens pieces
      rw [follow_of_passes hpass (Or.inr rfl)] at h
      obtain ⟨left, hleads⟩ := leads_of_follow fs links' directory' (more ++ pieces) h
      exact ⟨left, .pass hpass hleads⟩
    · by_cases hnil : pieces = []
      · subst hnil
        exact absurd h (hlast last)
      · rw [hstop true pieces hnil] at h
        cases h
termination_by links _ pieces => (links, pieces.length)
decreasing_by exact hless

end Following

/-! ### Dots -/

/-- Whether pieces are others with dots between them, from their first piece on to an end that they
share. -/
inductive Dotted : List FileName → List FileName → Prop where
  | shared {rest : List FileName} (hne : rest ≠ []) : Dotted rest rest
  | idle {pieces bare : List FileName} (hrest : Dotted pieces bare) : Dotted ([dot] :: pieces) bare
  | both {piece : FileName} {pieces bare : List FileName} (hrest : Dotted pieces bare) :
      Dotted (piece :: pieces) (piece :: bare)

namespace Dotted

variable {pieces bare : List FileName}

theorem ne_nil (h : Dotted pieces bare) : pieces ≠ [] ∧ bare ≠ [] := by
  induction h with
  | shared hne => exact ⟨hne, hne⟩
  | idle hrest ih => exact ⟨by simp, ih.2⟩
  | both hrest ih => exact ⟨by simp, by simp⟩

theorem prepend (front : List FileName) (h : Dotted pieces bare) :
    Dotted (front ++ pieces) (front ++ bare) := by
  induction front with
  | nil => exact h
  | cons piece front ih => exact .both ih

/-- The dots before an end can be left out. -/
theorem of_filter (front : List FileName) {rest : List FileName} (hne : rest ≠ []) :
    Dotted (front ++ rest) (front.filter (· ≠ [dot]) ++ rest) := by
  induction front with
  | nil => exact .shared hne
  | cons piece front ih =>
    by_cases hdot : piece = [dot]
    · subst hdot
      exact .idle ih
    · rw [List.filter_cons_of_pos (by simpa using hdot)]
      exact .both ih

/-- Dots on the way change nothing. -/
theorem follow_eq (fs : FileSystem) (followLast : Bool) : (links : Nat) → (directory : Location) →
    {pieces bare : List FileName} → Dotted pieces bare →
    fs.follow followLast links directory pieces = fs.follow followLast links directory bare
  | links, directory, _, _, .shared _ => rfl
  | links, directory, _, _, .idle hrest => by
    rw [follow_here, follow_eq fs followLast links directory hrest]
  | links, directory, _, _, @Dotted.both piece pieces _ hrest => by
    obtain ⟨hpieces, hbare⟩ := hrest.ne_nil
    rcases passes_or_stops fs links directory piece with
      ⟨links', directory', more, hpass⟩ | ⟨⟨fault, hstop⟩, -⟩
    · have hless := hpass.lessens pieces
      rw [follow_of_passes hpass (Or.inl hpieces), follow_of_passes hpass (Or.inl hbare),
        follow_eq fs followLast links' directory' (hrest.prepend more)]
    · rw [hstop followLast _ hpieces, hstop followLast _ hbare]
termination_by links _ pieces => (links, pieces.length)
decreasing_by
  · exact Prod.Lex.right _ (Nat.lt_succ_self _)
  · exact hless

end Dotted

end IdlBuild.FileSystem
