import Reporting.Sql.Render

/-!
# Query texts in pieces

The text of an expression in pieces, so that the marks of bound values can be told from other text.
Written one after another the pieces are the text (`written_pieces`).
-/

namespace Reporting.Sql

inductive Piece
  | text (s : String)
  /-- The mark of the value bound at a place. -/
  | mark (index : Nat)
deriving DecidableEq

def Piece.sql (d : Dialect) : Piece → String
  | text s => s
  | mark index => d.placeholder index

def Piece.mark? : Piece → Option Nat
  | text _ => none
  | mark index => some index

/-- Pieces with a separator between them. -/
def separated (sep : String) (parts : List (List Piece)) : List Piece :=
  List.intercalate [.text sep] parts

/-- A clause in pieces, left out when it has no parts. -/
def clausePieces (keyword sep : String) (parts : List (List Piece)) : List Piece :=
  if parts.isEmpty then []
  else .text " " :: .text keyword :: .text " " :: separated sep parts

def written (d : Dialect) (ps : List Piece) : String := String.join (ps.map (Piece.sql d))

/-- The marks met from left to right. -/
def marks (ps : List Piece) : List Nat := ps.filterMap Piece.mark?

section Written

variable (d : Dialect)

@[simp] theorem written_nil : written d [] = "" := rfl

@[simp] theorem written_text (s : String) (ps : List Piece) :
    written d (.text s :: ps) = s ++ written d ps := by
  simp [written, Piece.sql]

@[simp] theorem written_mark (index : Nat) (ps : List Piece) :
    written d (.mark index :: ps) = d.placeholder index ++ written d ps := by
  simp [written, Piece.sql]

@[simp] theorem written_append (ps qs : List Piece) :
    written d (ps ++ qs) = written d ps ++ written d qs := by
  simp [written]

theorem written_separated (sep : String) :
    ∀ parts : List (List Piece),
      written d (separated sep parts) = String.intercalate sep (parts.map (written d))
  | [] => rfl
  | [ps] => by simp [separated]
  | ps :: qs :: parts => by
    have ih := written_separated sep (qs :: parts)
    rw [separated] at ih ⊢
    rw [List.intercalate_cons_cons, written_append, written_append, ih, written_text, written_nil,
      String.append_empty, List.map_cons, List.map_cons, List.map_cons,
      String.intercalate_cons_cons]

theorem written_clausePieces (keyword sep : String) (parts : List (List Piece)) :
    written d (clausePieces keyword sep parts)
      = clause keyword (String.intercalate sep) (parts.map (written d)) := by
  cases parts with
  | nil => rfl
  | cons ps parts =>
    simp only [clausePieces, clause, List.isEmpty_cons, List.map_cons, written_text,
      written_separated, Bool.false_eq_true, if_false, ← String.append_assoc]
    rfl

end Written

section Marks

@[simp] theorem marks_nil : marks [] = [] := rfl

@[simp] theorem marks_text (s : String) (ps : List Piece) : marks (.text s :: ps) = marks ps := rfl

@[simp] theorem marks_mark (index : Nat) (ps : List Piece) :
    marks (.mark index :: ps) = index :: marks ps := rfl

@[simp] theorem marks_append (ps qs : List Piece) : marks (ps ++ qs) = marks ps ++ marks qs := by
  simp [marks]

@[simp] theorem marks_separated (sep : String) :
    ∀ parts : List (List Piece), marks (separated sep parts) = parts.flatMap marks
  | [] => rfl
  | [ps] => by simp [separated]
  | ps :: qs :: parts => by
    have ih := marks_separated sep (qs :: parts)
    rw [separated] at ih ⊢
    rw [List.intercalate_cons_cons, marks_append, marks_append, ih]
    simp

end Marks

namespace Dialect

mutual

/-- The text of an expression in pieces. -/
def pieces (d : Dialect) : Expr → List Piece
  | .column (some table) name => [.text (d.quoteName table), .text ".", .text (d.quoteName name)]
  | .column none name => [.text (d.quoteName name)]
  | .raw sql => [.text sql]
  | .literal v => [.text (d.literal v)]
  | .placeholder index => [.mark index]
  | .call name args => .text name :: .text "(" :: separated ", " (piecesOf d args) ++ [.text ")"]
  | .concat parts => separated " || " (piecesOf d parts)
  | .subquery query => .text "(" :: selectPieces d query ++ [.text ")"]
  | .nullProbe e =>
    .text "(SELECT " :: pieces d e ++ .text " WHERE " :: pieces d e ++ [.text " IS NULL)"]
  | .compare op left right =>
    pieces d left ++ .text " " :: .text op.sql :: .text " " :: pieces d right
  | .inList e list negated =>
    pieces d e ++ .text " " :: .text (notMark negated) :: .text "IN ("
      :: separated ", " (piecesOf d list) ++ [.text ")"]
  | .between e low high negated =>
    pieces d e ++ .text " " :: .text (notMark negated) :: .text "BETWEEN " :: pieces d low
      ++ .text " AND " :: pieces d high
  | .isNull e negated => pieces d e ++ [.text " IS ", .text (notMark negated), .text "NULL"]
  | .or parts => separated " OR " (piecesOf d parts)
  | .and parts => separated " AND " (piecesOf d parts)
  | .nested e => .text "(" :: pieces d e ++ [.text ")"]

def piecesOf (d : Dialect) : List Expr → List (List Piece)
  | [] => []
  | e :: es => pieces d e :: piecesOf d es

def itemPieces (d : Dialect) : SelectItem → List Piece
  | ⟨e, some label⟩ => pieces d e ++ [.text " AS ", .text (d.quoteName label)]
  | ⟨e, none⟩ => pieces d e

def itemsPieces (d : Dialect) : List SelectItem → List (List Piece)
  | [] => []
  | i :: is => itemPieces d i :: itemsPieces d is

def joinPieces (d : Dialect) : Join → List Piece
  | ⟨kind, table, conditions⟩ =>
    .text " " :: .text kind.sql :: .text " " :: .text (d.renderTable table) :: .text " ON ("
      :: separated " AND " (piecesOf d conditions) ++ [.text ")"]

def joinsPieces (d : Dialect) : List Join → List (List Piece)
  | [] => []
  | j :: js => joinPieces d j :: joinsPieces d js

def orderPieces (d : Dialect) : OrderItem → List Piece
  | ⟨e, descending⟩ => pieces d e ++ [.text (if descending then " DESC" else "")]

def ordersPieces (d : Dialect) : List OrderItem → List (List Piece)
  | [] => []
  | o :: os => orderPieces d o :: ordersPieces d os

def selectPieces (d : Dialect) : SelectQuery → List Piece
  | ⟨select, source, joins, filters, groupBy, orderBy⟩ =>
    .text "SELECT " :: separated ", " (itemsPieces d select) ++ .text " FROM "
      :: .text (d.renderTable source) :: (joinsPieces d joins).flatten
      ++ clausePieces "WHERE" " AND " (piecesOf d filters)
      ++ clausePieces "GROUP BY" ", " (piecesOf d groupBy)
      ++ clausePieces "ORDER BY" ", " (ordersPieces d orderBy)

end

mutual

/-- The pieces are the text. -/
theorem written_pieces (d : Dialect) : ∀ e : Expr, written d (pieces d e) = renderExpr d e
  | .column (some table) name => by simp [pieces, renderExpr, String.append_assoc]
  | .column none name => by simp [pieces, renderExpr]
  | .raw sql => by simp [pieces, renderExpr]
  | .literal v => by simp [pieces, renderExpr]
  | .placeholder index => by simp [pieces, renderExpr]
  | .call name args => by
    simp [pieces, renderExpr, written_separated, written_piecesOf d args, commaList,
      String.append_assoc]
  | .concat parts => by
    simp [pieces, renderExpr, written_separated, written_piecesOf d parts]
  | .subquery query => by
    simp [pieces, renderExpr, written_selectPieces d query, String.append_assoc]
  | .nullProbe e => by
    simp [pieces, renderExpr, written_pieces d e, String.append_assoc]
  | .compare op left right => by
    simp [pieces, renderExpr, written_pieces d left, written_pieces d right, String.append_assoc]
  | .inList e list negated => by
    simp [pieces, renderExpr, written_pieces d e, written_separated, written_piecesOf d list,
      commaList, String.append_assoc]
  | .between e low high negated => by
    simp [pieces, renderExpr, written_pieces d e, written_pieces d low, written_pieces d high,
      String.append_assoc]
  | .isNull e negated => by
    simp [pieces, renderExpr, written_pieces d e, String.append_assoc]
  | .or parts => by simp [pieces, renderExpr, written_separated, written_piecesOf d parts]
  | .and parts => by
    simp [pieces, renderExpr, written_separated, written_piecesOf d parts, conjunction]
  | .nested e => by simp [pieces, renderExpr, written_pieces d e, String.append_assoc]

theorem written_piecesOf (d : Dialect) :
    ∀ es : List Expr, (piecesOf d es).map (written d) = renderExprs d es
  | [] => rfl
  | e :: es => by
    rw [piecesOf, renderExprs, List.map_cons, written_pieces d e, written_piecesOf d es]

theorem written_itemPieces (d : Dialect) :
    ∀ i : SelectItem, written d (itemPieces d i) = renderItem d i
  | ⟨e, some label⟩ => by
    simp [itemPieces, renderItem, written_pieces d e, String.append_assoc]
  | ⟨e, none⟩ => by simp [itemPieces, renderItem, written_pieces d e]

theorem written_itemsPieces (d : Dialect) :
    ∀ is : List SelectItem, (itemsPieces d is).map (written d) = renderItems d is
  | [] => rfl
  | i :: is => by
    rw [itemsPieces, renderItems, List.map_cons, written_itemPieces d i, written_itemsPieces d is]

theorem written_joinPieces (d : Dialect) : ∀ j : Join, written d (joinPieces d j) = renderJoin d j
  | ⟨kind, table, conditions⟩ => by
    simp [joinPieces, renderJoin, written_separated, written_piecesOf d conditions, conjunction,
      String.append_assoc]

theorem written_joinsPieces (d : Dialect) :
    ∀ js : List Join, written d (joinsPieces d js).flatten = String.join (renderJoins d js)
  | [] => rfl
  | j :: js => by
    rw [joinsPieces, renderJoins, List.flatten_cons, written_append, written_joinPieces d j,
      written_joinsPieces d js, String.join_cons]

theorem written_orderPieces (d : Dialect) :
    ∀ o : OrderItem, written d (orderPieces d o) = renderOrderItem d o
  | ⟨e, descending⟩ => by simp [orderPieces, renderOrderItem, written_pieces d e]

theorem written_ordersPieces (d : Dialect) :
    ∀ os : List OrderItem, (ordersPieces d os).map (written d) = renderOrderItems d os
  | [] => rfl
  | o :: os => by
    rw [ordersPieces, renderOrderItems, List.map_cons, written_orderPieces d o,
      written_ordersPieces d os]

theorem written_selectPieces (d : Dialect) :
    ∀ q : SelectQuery, written d (selectPieces d q) = renderSelect d q
  | ⟨select, source, joins, filters, groupBy, orderBy⟩ => by
    simp [selectPieces, renderSelect, written_separated, written_clausePieces,
      written_itemsPieces d select, written_joinsPieces d joins, written_piecesOf d filters,
      written_piecesOf d groupBy, written_ordersPieces d orderBy, commaList,
      String.append_assoc]
    rfl

end

end Dialect

end Reporting.Sql
