import FormQuery.Query

/-! Which columns a query mentions, told from its parts and in no order. -/

namespace FormQuery

/-- A value mentions a column itself, or in an argument of a function. -/
inductive ValueExpr.Mentions : ValueExpr → ColumnRef → Prop
  | field (ref : ColumnRef) : Mentions (.field ref) ref
  | argument {name : String} {arguments : List ValueExpr} {position : Nat} {argument : ValueExpr} {ref : ColumnRef}
      (member : argument ∈ arguments) (inside : argument.Mentions ref) : Mentions (.call name arguments position) ref

inductive Query.Mentions : Query → ColumnRef → Prop
  | shown {wanted : Select} {item : SelectItem} {ref : ColumnRef} (member : item ∈ wanted.items)
      (column : item.expr = .column ref) : Mentions (.select wanted) ref
  | summarized {wanted : Select} {item : SelectItem} {call : AggregateCall} {ref : ColumnRef}
      (member : item ∈ wanted.items) (aggregate : item.expr = .aggregate call) (argument : call.argument = some ref) :
      Mentions (.select wanted) ref
  | tested {wanted : Select} {condition : Condition} (member : condition ∈ wanted.filter.conditions) :
      Mentions (.select wanted) condition.column
  | assigned {change : Update} : Mentions (.update change) change.target
  | used {change : Update} {ref : ColumnRef} (inside : change.value.Mentions ref) : Mentions (.update change) ref

theorem ValueExpr.mem_columnRefsAll {arguments : List ValueExpr} {ref : ColumnRef} :
    ref ∈ columnRefsAll arguments ↔ ∃ argument ∈ arguments, ref ∈ argument.columnRefs := by
  induction arguments with
  | nil => simp [columnRefsAll]
  | cons argument rest ih => simp [columnRefsAll, ih]

theorem ValueExpr.Mentions.mem_columnRefs {expr : ValueExpr} {ref : ColumnRef} (mentions : expr.Mentions ref) :
    ref ∈ expr.columnRefs := by
  induction mentions with
  | field ref => simp [columnRefs]
  | argument member inside ih =>
    rw [columnRefs, mem_columnRefsAll]
    exact ⟨_, member, ih⟩

mutual
theorem ValueExpr.mentions_of_mem {expr : ValueExpr} {ref : ColumnRef} (member : ref ∈ expr.columnRefs) :
    expr.Mentions ref := by
  cases expr with
  | literal constant => simp [columnRefs] at member
  | field column =>
    obtain rfl : ref = column := by simpa [columnRefs] using member
    exact .field ref
  | call name arguments position =>
    rw [columnRefs] at member
    obtain ⟨argument, inside, mentions⟩ := ValueExpr.mention_of_mem_all member
    exact .argument inside mentions
  | foreign kind => simp [columnRefs] at member

theorem ValueExpr.mention_of_mem_all {arguments : List ValueExpr} {ref : ColumnRef}
    (member : ref ∈ columnRefsAll arguments) : ∃ argument ∈ arguments, argument.Mentions ref := by
  cases arguments with
  | nil => simp [columnRefsAll] at member
  | cons argument rest =>
    rw [columnRefsAll, List.mem_append] at member
    obtain own | others := member
    · exact ⟨argument, List.mem_cons_self, ValueExpr.mentions_of_mem own⟩
    · obtain ⟨other, inside, mentions⟩ := ValueExpr.mention_of_mem_all others
      exact ⟨other, List.mem_cons_of_mem argument inside, mentions⟩
end

/-- The traversal of a query meets every column that the query mentions, and no other. -/
theorem Query.mem_columnRefs {query : Query} {ref : ColumnRef} : ref ∈ query.columnRefs ↔ query.Mentions ref := by
  constructor
  · intro member
    cases query with
    | select wanted =>
      rw [columnRefs, List.mem_append] at member
      obtain shown | tested := member
      · obtain ⟨item, inside, column⟩ := List.mem_filterMap.mp shown
        cases expr : item.expr with
        | column own =>
          rw [expr] at column
          cases column
          exact .shown inside expr
        | aggregate call =>
          rw [expr] at column
          exact .summarized inside expr column
      · obtain ⟨condition, inside, rfl⟩ := List.mem_map.mp tested
        exact .tested inside
    | update change =>
      obtain rfl | used := List.mem_cons.mp member
      · exact .assigned
      · exact .used (ValueExpr.mentions_of_mem used)
  · intro mentions
    cases mentions with
    | shown member column =>
      apply List.mem_append_left
      exact List.mem_filterMap.mpr ⟨_, member, by rw [column]; rfl⟩
    | summarized member aggregate argument =>
      apply List.mem_append_left
      exact List.mem_filterMap.mpr ⟨_, member, by rw [aggregate]; exact argument⟩
    | tested member =>
      apply List.mem_append_right
      exact List.mem_map_of_mem member
    | assigned => exact List.mem_cons_self
    | used inside => exact List.mem_cons_of_mem _ inside.mem_columnRefs

end FormQuery
