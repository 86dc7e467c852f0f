import FormQuery.Proofs.SourceOrder

/-! Two runs of one reader, side by side. They stand at cursors that are told alike, until the second run is left
behind: from there on the first one goes alone. What is compared is a parameter: tokens that stand for each other,
places where the runs stand together or where the first one stands alone, and errors. Rules carry the comparison
through the steps of a reader, and its readers follow by them. -/

namespace FormQuery

variable {α β : Type}

namespace Parser

/-- A token that may stand for another one: readers see no difference, but for the spelling of an unknown word. -/
structure Matches (token other : Token) : Prop where
  kind : other.kind = token.kind
  position : other.position = token.position
  quoted : other.isQuoted = token.isQuoted
  value : token.kind ≠ .unrecognized → other.value = token.value
  capital : capitals other.value = capitals token.value
  small : smallLetters other.value = smallLetters token.value
  starts : startsName other.value = startsName token.value
  column : capitals token.value ∉ unsupportedWords → bareColumn other = bareColumn token

theorem Matches.refl (token : Token) : Matches token token := ⟨rfl, rfl, rfl, fun _ => rfl, rfl, rfl, rfl, fun _ => rfl⟩

/-- An unknown word that is passed for what it means, and not just as an alias. -/
def IsWord (token : Token) : Prop := startsName token.value = true ∨ smallLetters token.value = rowIdColumn

/-- Two runs of which the second may be left behind. From then on the first one goes alone. -/
structure Pairing where
  /-- Where the runs stand: the first one, and the second one unless it is left behind. -/
  stands : Cursor → Option Cursor → Prop
  /-- A token that the first run meets alone. -/
  alone : Token → Prop
  /-- Tokens that the two runs meet at the same time. -/
  same : Token → Token → Prop
  /-- How the runs fail: the first one, and the second one unless it is left behind. -/
  told : SyntaxError → Option SyntaxError → Prop

namespace Pairing

variable (pairing : Pairing)

/-- The first run passes a token, and the second one passes one as well or is left behind. -/
structure Moves (cursor : Cursor) (other after : Option Cursor) : Prop where
  stands : pairing.stands cursor.advance after
  alone : after = none → pairing.alone cursor.current
  second : ∀ left ∈ after, ∃ start ∈ other, left = start.advance

structure Lawful : Prop where
  ordered : ∀ {cursor other}, pairing.stands cursor other → cursor.Ordered ∧ ∀ begun ∈ other, begun.Ordered
  same_self : ∀ {token}, pairing.alone token → pairing.same token token
  alone_current : ∀ {cursor}, pairing.stands cursor none → pairing.alone cursor.current
  same_current : ∀ {cursor other}, pairing.stands cursor (some other) → pairing.same cursor.current other.current
  matching : ∀ {token other}, pairing.same token other → Matches token other
  told_alone : ∀ {token} cause, pairing.alone token → pairing.told ⟨cause, token.position⟩ none
  told_refusal : ∀ {token other} expected, pairing.same token other →
    pairing.told (refusal token expected) (some (refusal other expected))
  told_both : ∀ error, pairing.told error (some error)
  /-- A wrong number of arguments is told at the name of the function, long after it is passed. -/
  told_count : ∀ {token other rest} name arity given, pairing.same token other → pairing.stands rest none →
    pairing.told ⟨.argumentCount name arity given, token.position⟩ none
  /-- Only behind an unknown word the next token counts. -/
  peeks : ∀ {cursor other}, pairing.stands cursor (some other) → cursor.current.kind = .unrecognized →
    (other.next.kind = .leftParen ↔ cursor.next.kind = .leftParen) ∨ pairing.alone cursor.current
  passes : ∀ {cursor other}, pairing.stands cursor other → cursor.current.kind ≠ .endOfInput →
    (cursor.current.kind = .unrecognized → IsWord cursor.current) → ∃ after, pairing.Moves cursor other after
  /-- A word behind `AS` is passed as it is, whatever it means. -/
  aliases : ∀ {cursor other middle}, pairing.stands cursor other → cursor.current.kind = .asWord →
    pairing.Moves cursor other middle → cursor.advance.current.kind = .unrecognized →
    capitals cursor.advance.current.value ∉ unsupportedWords →
    (∀ left ∈ middle, left.current.value = cursor.advance.current.value) ∧
      ∃ after, pairing.Moves cursor.advance middle after

theorem exists_refusal (token : Token) (expected : String) :
    ∃ cause, refusal token expected = ⟨cause, token.position⟩ := by
  unfold refusal
  generalize (if token.kind = .unrecognized || token.kind = .function then capitals token.value else "") = word
  dsimp only
  split
  · exact ⟨_, rfl⟩
  · split <;> exact ⟨_, rfl⟩

theorem run_expect_here {kind : TokenKind} {expected : String} {next : Token → Parser α} {cursor : Cursor}
    (here : cursor.current.kind = kind) :
    (expect kind expected >>= next).run cursor = (advance >>= next).run cursor := by
  rw [run_bind, run_expect, if_pos here, run_bind, run_advance]

theorem run_expect_elsewhere {kind : TokenKind} {expected : String} {next : Token → Parser α} {cursor : Cursor}
    (elsewhere : cursor.current.kind ≠ kind) :
    (expect kind expected >>= next).run cursor = (refuse expected : Parser α).run cursor := by
  rw [run_bind, run_expect, if_neg elsewhere, run_refuse]

/-- How two runs end: with one value, or each with an error, unless the second one is left behind before. -/
def Gives (post : Option Cursor → α → Prop) (first : Except SyntaxError (α × Cursor))
    (second : Option (Except SyntaxError (α × Cursor))) : Prop :=
  match first with
  | .ok (value, rest) =>
    ∃ other, pairing.stands rest other ∧ post other value ∧ ∀ left ∈ other, second = some (.ok (value, left))
  | .error error => ∃ other, pairing.told error other ∧ ∀ failed ∈ other, second = some (.error failed)

def Runs (first second : Parser α) (post : Option Cursor → α → Prop) (cursor : Cursor) (other : Option Cursor) : Prop :=
  pairing.Gives post (first.run cursor) (other.map second.run)

variable {pairing} (lawful : pairing.Lawful)
variable {first second : Parser α} {next resume : α → Parser β} {after_token other_token : Token → Parser α}
variable {post : Option Cursor → α → Prop} {last : Option Cursor → β → Prop}
variable {cursor : Cursor} {other : Option Cursor} {expected : String}

theorem Gives.left_behind {first : Except SyntaxError (α × Cursor)} (gives : pairing.Gives post first none)
    (second : Option (Except SyntaxError (α × Cursor))) : pairing.Gives post first second := by
  cases first with
  | error error =>
    obtain ⟨other, told, same⟩ := gives
    exact ⟨other, told, fun failed member => absurd (same failed member) nofun⟩
  | ok result =>
    obtain ⟨other, stands, known, same⟩ := gives
    exact ⟨other, stands, known, fun left member => absurd (same left member) nofun⟩

namespace Runs

theorem pure {value : α} (stands : pairing.stands cursor other) (known : post other value) :
    pairing.Runs (pure value) (pure value) post cursor other := by
  refine ⟨other, stands, known, ?_⟩
  rintro left rfl
  rfl

theorem throw {error : SyntaxError} (alone : other = none → pairing.told error none)
    (lawful : pairing.Lawful) : pairing.Runs (throw error) (throw error) post cursor other := by
  cases other with
  | none => exact ⟨none, alone rfl, nofun⟩
  | some other =>
    refine ⟨some error, lawful.told_both error, ?_⟩
    rintro _ ⟨⟩
    rfl

/-- Only what the readers do where they stand counts. -/
theorem congr {third fourth : Parser α} (runs : pairing.Runs third fourth post cursor other)
    (same : first.run cursor = third.run cursor) (also : ∀ begun ∈ other, second.run begun = fourth.run begun) :
    pairing.Runs first second post cursor other := by
  have seconds : other.map second.run = other.map fourth.run := Option.map_congr also
  unfold Runs at runs ⊢
  rw [same, seconds]
  exact runs

theorem bind_of {finer : Pairing} (start : finer.Runs first second post cursor other)
    (told : ∀ {error failed}, finer.told error failed → pairing.told error failed)
    (further : ∀ value rest after, finer.stands rest after → post after value →
      pairing.Runs (next value) (resume value) last rest after) :
    pairing.Runs (first >>= next) (second >>= resume) last cursor other := by
  unfold Runs at start
  unfold Runs
  rw [run_bind]
  cases ran : first.run cursor with
  | error error =>
    rw [ran] at start
    obtain ⟨failure, known, same⟩ := start
    refine ⟨failure, told known, fun failed member => ?_⟩
    obtain ⟨begun, rfl, stopped⟩ := Option.map_eq_some_iff.mp (same failed member)
    rw [Option.map_some, run_bind, stopped]
  | ok result =>
    obtain ⟨value, rest⟩ := result
    rw [ran] at start
    obtain ⟨after, stands, known, same⟩ := start
    have goes := further value rest after stands known
    cases after with
    | none => exact goes.left_behind _
    | some left =>
      obtain ⟨begun, rfl, went⟩ := Option.map_eq_some_iff.mp (same left rfl)
      rw [Option.map_some, run_bind, went]
      exact goes

theorem bind (start : pairing.Runs first second post cursor other)
    (further : ∀ value rest after, pairing.stands rest after → post after value →
      pairing.Runs (next value) (resume value) last rest after) :
    pairing.Runs (first >>= next) (second >>= resume) last cursor other := start.bind_of id further

theorem ite {condition : Prop} [Decidable condition] {third fourth : Parser α}
    (left : condition → pairing.Runs first second post cursor other)
    (right : ¬condition → pairing.Runs third fourth post cursor other) :
    pairing.Runs (if condition then first else third) (if condition then second else fourth) post cursor other := by
  split
  next known => exact left known
  next known => exact right known

end Runs

namespace Lawful

include lawful

theorem current_bind (stands : pairing.stands cursor other)
    (further : ∀ second, pairing.same cursor.current second → second = other.elim cursor.current Cursor.current →
      pairing.Runs (after_token cursor.current) (other_token second) post cursor other) :
    pairing.Runs (current >>= after_token) (current >>= other_token) post cursor other := by
  unfold Runs at further ⊢
  rw [run_bind, run_current]
  cases other with
  | none => exact further cursor.current (lawful.same_self (lawful.alone_current stands)) rfl
  | some begun =>
    rw [Option.map_some, run_bind, run_current]
    exact further begun.current (lawful.same_current stands) rfl

theorem atKind_bind {kind : TokenKind} {next resume : Bool → Parser α} (stands : pairing.stands cursor other)
    (further : pairing.Runs (next (decide (cursor.current.kind = kind))) (resume (decide (cursor.current.kind = kind)))
      post cursor other) : pairing.Runs (atKind kind >>= next) (atKind kind >>= resume) post cursor other := by
  unfold Runs at further ⊢
  rw [run_bind, run_atKind]
  cases other with
  | none => exact further
  | some begun =>
    rw [Option.map_some, run_bind, run_atKind, (lawful.matching (lawful.same_current stands)).kind]
    exact further

theorem atKind_ite {kind : TokenKind} {third fourth : Parser α} (stands : pairing.stands cursor other)
    (here : cursor.current.kind = kind → pairing.Runs first second post cursor other)
    (elsewhere : cursor.current.kind ≠ kind → pairing.Runs third fourth post cursor other) :
    pairing.Runs (do if ← atKind kind then first else third) (do if ← atKind kind then second else fourth)
      post cursor other := by
  apply lawful.atKind_bind stands
  simp only [decide_eq_true_eq]
  exact .ite here elsewhere

theorem refuse (stands : pairing.stands cursor other) :
    pairing.Runs (refuse expected) (refuse expected) post cursor other := by
  unfold Runs
  rw [run_refuse]
  cases other with
  | none =>
    obtain ⟨cause, told⟩ := exists_refusal cursor.current expected
    exact ⟨none, told ▸ lawful.told_alone cause (lawful.alone_current stands), nofun⟩
  | some begun =>
    refine ⟨_, lawful.told_refusal expected (lawful.same_current stands), ?_⟩
    rintro _ ⟨⟩
    rfl

theorem refuse_bind (stands : pairing.stands cursor other) :
    pairing.Runs (Parser.refuse expected >>= next) (Parser.refuse expected >>= resume) last cursor other := by
  have refused : pairing.Runs (Parser.refuse expected) (Parser.refuse expected) (fun _ (_ : α) => False) cursor other :=
    lawful.refuse stands
  exact refused.bind fun _ _ _ _ never => never.elim

theorem moves_bind {after : Option Cursor} (stands : pairing.stands cursor other)
    (moves : pairing.Moves cursor other after)
    (further : ∀ second, pairing.same cursor.current second →
      pairing.Runs (after_token cursor.current) (other_token second) post cursor.advance after) :
    pairing.Runs (advance >>= after_token) (advance >>= other_token) post cursor other := by
  unfold Runs at further ⊢
  rw [run_bind, run_advance]
  cases other with
  | none =>
    obtain rfl : after = none := Option.eq_none_iff_forall_not_mem.mpr fun left member => by
      obtain ⟨start, none, -⟩ := moves.second left member
      cases none
    exact further cursor.current (lawful.same_self (lawful.alone_current stands))
  | some begun =>
    have goes := further begun.current (lawful.same_current stands)
    cases after with
    | none => exact goes.left_behind _
    | some left =>
      obtain ⟨_, ⟨⟩, rfl⟩ := moves.second left rfl
      rw [Option.map_some, run_bind, run_advance]
      exact goes

theorem exists_moves (stands : pairing.stands cursor other)
    (word : cursor.current.kind = .unrecognized → IsWord cursor.current) :
    ∃ after, pairing.Moves cursor other after := by
  by_cases ends : cursor.current.kind = .endOfInput
  · have stays : cursor.advance = cursor := by rw [Cursor.advance, if_pos ends]
    refine ⟨other, stays.symm ▸ stands, ?_, ?_⟩
    · rintro rfl
      exact lawful.alone_current stands
    · rintro begun rfl
      have alike := lawful.matching (lawful.same_current stands)
      exact ⟨begun, rfl, by rw [Cursor.advance, if_pos (alike.kind.trans ends)]⟩
  · exact lawful.passes stands ends word

theorem advance_bind (stands : pairing.stands cursor other)
    (word : cursor.current.kind = .unrecognized → IsWord cursor.current)
    (further : ∀ second after, pairing.same cursor.current second → pairing.Moves cursor other after →
      pairing.Runs (after_token cursor.current) (other_token second) post cursor.advance after) :
    pairing.Runs (advance >>= after_token) (advance >>= other_token) post cursor other := by
  obtain ⟨after, moves⟩ := lawful.exists_moves stands word
  exact lawful.moves_bind stands moves fun second same => further second after same moves

theorem expect_bind {kind : TokenKind} (stands : pairing.stands cursor other)
    (plain : kind ≠ .unrecognized)
    (further : cursor.current.kind = kind → ∀ second after, pairing.same cursor.current second →
      pairing.Moves cursor other after →
      pairing.Runs (after_token cursor.current) (other_token second) post cursor.advance after) :
    pairing.Runs (expect kind expected >>= after_token) (expect kind expected >>= other_token) post cursor other := by
  have alike : ∀ begun ∈ other, begun.current.kind = cursor.current.kind := by
    rintro begun rfl
    exact (lawful.matching (lawful.same_current stands)).kind
  by_cases here : cursor.current.kind = kind
  · have goes := lawful.advance_bind stands (fun word => absurd (here.symm.trans word) plain) (further here)
    exact goes.congr (run_expect_here here) fun begun member => run_expect_here ((alike begun member).trans here)
  · exact (lawful.refuse stands).congr (run_expect_elsewhere here) fun begun member =>
      run_expect_elsewhere (alike begun member ▸ here)

end Lawful

/-- The same comparison where the tokens that are left bound the rounds that each of the runs has left. -/
def within (pairing : Pairing) (fuel bound : Nat) : Pairing where
  stands cursor other := pairing.stands cursor other ∧ 2 * cursor.ahead.length ≤ fuel ∧
    ∀ begun ∈ other, 2 * begun.ahead.length ≤ bound
  alone := pairing.alone
  same := pairing.same
  told := pairing.told

theorem advance_cons {token next : Token} {ahead : List Token} (visible : token.kind ≠ .endOfInput) :
    Cursor.advance ⟨token, next :: ahead⟩ = ⟨next, ahead⟩ := if_neg visible

theorem length_advance_le (cursor : Cursor) : cursor.advance.ahead.length ≤ cursor.ahead.length := by
  unfold Cursor.advance
  split
  · exact Nat.le_refl _
  · split
    · exact Nat.le_refl _
    next shape =>
      rw [shape]
      exact Nat.le_succ _

theorem length_advance {cursor : Cursor} (ordered : cursor.Ordered) (visible : cursor.current.kind ≠ .endOfInput) :
    cursor.advance.ahead.length + 1 = cursor.ahead.length := by
  rw [Cursor.advance, if_neg visible]
  cases ordered with
  | last ends => exact absurd ends visible
  | more => rfl

theorem Moves.within {fuel bound : Nat} {after : Option Cursor} (moves : pairing.Moves cursor other after)
    (stands : (pairing.within fuel bound).stands cursor other) :
    (pairing.within fuel bound).Moves cursor other after := by
  obtain ⟨-, enough, also⟩ := stands
  have less := length_advance_le cursor
  refine ⟨⟨moves.stands, by omega, ?_⟩, moves.alone, moves.second⟩
  intro left member
  obtain ⟨start, begun, rfl⟩ := moves.second left member
  have room := also start begun
  have fewer := length_advance_le start
  omega

theorem Moves.of_within {fuel bound : Nat} {after : Option Cursor}
    (moves : (pairing.within fuel bound).Moves cursor other after) : pairing.Moves cursor other after :=
  ⟨moves.stands.1, moves.alone, moves.second⟩

theorem Lawful.within (lawful : pairing.Lawful) (fuel bound : Nat) : (pairing.within fuel bound).Lawful where
  ordered stands := lawful.ordered stands.1
  same_self := lawful.same_self
  alone_current stands := lawful.alone_current stands.1
  same_current stands := lawful.same_current stands.1
  matching := lawful.matching
  told_alone := lawful.told_alone
  told_refusal := lawful.told_refusal
  told_both := lawful.told_both
  told_count name arity given same stands := lawful.told_count name arity given same stands.1
  peeks stands := lawful.peeks stands.1
  passes stands visible word := by
    obtain ⟨after, moves⟩ := lawful.passes stands.1 visible word
    exact ⟨after, moves.within stands⟩
  aliases stands kind moves word known := by
    obtain ⟨shown, after, passes⟩ := lawful.aliases stands.1 kind moves.of_within word known
    exact ⟨shown, after, passes.within moves.stands⟩

theorem Gives.imp {other : Pairing} {first : Except SyntaxError (α × Cursor)}
    {second : Option (Except SyntaxError (α × Cursor))} (gives : pairing.Gives post first second)
    (stands : ∀ {cursor begun}, pairing.stands cursor begun → other.stands cursor begun)
    (told : ∀ {error failed}, pairing.told error failed → other.told error failed) :
    other.Gives post first second := by
  cases first with
  | error error =>
    obtain ⟨failed, known, same⟩ := gives
    exact ⟨failed, told known, same⟩
  | ok result =>
    obtain ⟨after, place, known, same⟩ := gives
    exact ⟨after, stands place, known, same⟩

theorem Runs.of_within (fuel bound : Nat) (runs : (pairing.within fuel bound).Runs first second post cursor other) :
    pairing.Runs first second post cursor other := Gives.imp runs (fun stands => stands.1) id

theorem Runs.bind_within {fuel bound : Nat}
    (start : (pairing.within fuel bound).Runs first second post cursor other)
    (further : ∀ value rest after, (pairing.within fuel bound).stands rest after → post after value →
      pairing.Runs (next value) (resume value) last rest after) :
    pairing.Runs (first >>= next) (second >>= resume) last cursor other := start.bind_of id further

section Rounds

variable {fuel bound left less : Nat}

theorem within_mono (stands : (pairing.within left less).stands cursor other) (enough : left ≤ fuel)
    (also : less ≤ bound) : (pairing.within fuel bound).stands cursor other :=
  ⟨stands.1, Nat.le_trans stands.2.1 enough, fun begun member => Nat.le_trans (stands.2.2 begun member) also⟩

theorem within_within (stands : (pairing.within fuel bound).stands cursor other) :
    ((pairing.within fuel bound).within fuel bound).stands cursor other := ⟨stands, stands.2⟩

theorem kind_second (lawful : pairing.Lawful) (stands : pairing.stands cursor other) :
    ∀ begun ∈ other, begun.current.kind = cursor.current.kind := by
  rintro begun rfl
  exact (lawful.matching (lawful.same_current stands)).kind

/-- Where a token is passed, both runs have a round left. The bound of a run that is left behind does not count. -/
theorem exists_rounds (lawful : pairing.Lawful) (stands : (pairing.within fuel bound).stands cursor other)
    (visible : cursor.current.kind ≠ .endOfInput) :
    ∃ left less, fuel = left + 2 ∧ (∀ begun ∈ other, bound = less + 2) ∧
      (pairing.within (left + 2) (less + 2)).stands cursor other ∧
      ∀ after, pairing.Moves cursor other after → (pairing.within left less).stands cursor.advance after := by
  obtain ⟨place, enough, also⟩ := stands
  obtain ⟨ordered, others⟩ := lawful.ordered place
  have fewer := length_advance ordered visible
  have second : ∀ begun ∈ other, begun.advance.ahead.length + 1 = begun.ahead.length := by
    intro begun member
    exact length_advance (others begun member) (kind_second lawful place begun member ▸ visible)
  have rounds : ∀ begun ∈ other, bound = bound - 2 + 2 := by
    intro begun member
    have less := second begun member
    have room := also begun member
    omega
  refine ⟨fuel - 2, bound - 2, by omega, rounds, ⟨place, by omega, ?_⟩, fun after moves => ⟨moves.stands, by omega, ?_⟩⟩
  · intro begun member
    exact rounds begun member ▸ also begun member
  · intro left member
    obtain ⟨start, begun, rfl⟩ := moves.second left member
    have less := second start begun
    have room := also start begun
    omega

/-- Whatever bounds the rounds, a reader may do the same where it stands. -/
theorem settled (reader : Parser α) (lawful : pairing.Lawful) (stands : pairing.stands cursor other)
    (settles : ∀ place : Cursor, place.current.kind = cursor.current.kind →
      first.run place = reader.run place ∧ second.run place = reader.run place)
    (runs : pairing.Runs reader reader post cursor other) : pairing.Runs first second post cursor other :=
  runs.congr (settles cursor rfl).1 fun begun member => (settles begun (kind_second lawful stands begun member)).2

/-- A reader with a bound on its rounds, where both runs have a round left. -/
theorem Runs.rounds {more : Nat → Parser α} (runs : pairing.Runs (more fuel) (more (less + 2)) post cursor other)
    (rounds : ∀ begun ∈ other, bound = less + 2) : pairing.Runs (more fuel) (more bound) post cursor other :=
  runs.congr rfl fun begun member => by rw [rounds begun member]

end Rounds

/-- A single run, at places where it can stand. Whatever fails is told of it alone. -/
def single (place : Cursor → Prop) (met : Token → Prop) (fails : SyntaxError → Prop) : Pairing where
  stands cursor other := place cursor ∧ other = none
  alone := met
  same token other := met token ∧ other = token
  told error other := other = none → fails error

theorem Lawful.single {place : Cursor → Prop} {met : Token → Prop} {fails : SyntaxError → Prop}
    (ordered : ∀ {cursor}, place cursor → cursor.Ordered)
    (current : ∀ {cursor}, place cursor → met cursor.current)
    (told : ∀ {token} cause, met token → fails ⟨cause, token.position⟩)
    (passes : ∀ {cursor}, place cursor → cursor.current.kind ≠ .endOfInput →
      (cursor.current.kind = .unrecognized → IsWord cursor.current) → place cursor.advance)
    (aliases : ∀ {cursor}, place cursor → cursor.current.kind = .asWord →
      cursor.advance.current.kind = .unrecognized → place cursor.advance.advance) :
    (single place met fails).Lawful where
  ordered stands := ⟨ordered stands.1, fun begun member => by rw [stands.2] at member; cases member⟩
  same_self known := ⟨known, rfl⟩
  alone_current stands := current stands.1
  same_current stands := nomatch stands.2
  matching same := same.2 ▸ .refl _
  told_alone cause known _ := told cause known
  told_refusal _ _ := nofun
  told_both _ := nofun
  told_count _ _ _ same _ _ := told _ same.1
  peeks stands := nomatch stands.2
  passes stands visible word :=
    ⟨none, ⟨passes stands.1 visible word, rfl⟩, fun _ => current stands.1, nofun⟩
  aliases stands kind moves word _ := by
    obtain ⟨place, rfl⟩ := moves.stands
    exact ⟨nofun, none, ⟨aliases stands.1 kind word, rfl⟩, fun _ => current place, nofun⟩

end Pairing

end Parser

end FormQuery
