namespace OpenApiCodegen

def total {α : Type} (size : α → Nat) : List α → Nat
  | [] => 0
  | a :: rest => size a + total size rest

end OpenApiCodegen
