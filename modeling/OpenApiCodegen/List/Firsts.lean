namespace OpenApiCodegen

def firstsBy {α κ : Type} [BEq κ] (key : α → κ) : List α → List α
  | [] => []
  | a :: rest => a :: (firstsBy key rest).filter fun b => !(key b == key a)

def firsts {α : Type} [BEq α] (items : List α) : List α :=
  firstsBy id items

end OpenApiCodegen
