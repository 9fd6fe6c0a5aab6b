import EditorBlocks.Proofs.Session.Runs
/-! A parse as two handlers, one inside the other: the inner one makes a parser failure of any fault,
and the outer one gives back the failures of a reported kind. A fault of another kind passes the
outer one, also if it is raised inside the inner one. -/

namespace EditorBlocks

namespace Parser
variable {p : Parser} {r : Request} {j : Journal}

end Parser
end EditorBlocks
