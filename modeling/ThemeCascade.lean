import ThemeCascade.Session
import ThemeCascade.Configuration.Loading
import ThemeCascade.Proofs.Rule.Semantics
import ThemeCascade.Proofs.Cascade.Semantics
import ThemeCascade.Proofs.Style.Memory
import ThemeCascade.Proofs.Cascade.Refinement
import ThemeCascade.Proofs.Path.Names
import ThemeCascade.Proofs.Session.Semantics
import ThemeCascade.Proofs.Session.Refinement
import ThemeCascade.Proofs.Rule.RoundTrip
import ThemeCascade.Proofs.Cascade.Splitting
import ThemeCascade.Proofs.Session.Restyling
import ThemeCascade.Proofs.Cascade.Insertion
import ThemeCascade.Proofs.Cascade.DarkOverlay
import ThemeCascade.Proofs.Json.Grammar
import ThemeCascade.Proofs.Json.Strings
import ThemeCascade.Proofs.Json.Reading
import ThemeCascade.Proofs.Json.Records
import ThemeCascade.Configuration.Encoding
import ThemeCascade.Proofs.Json.Writing
import ThemeCascade.Proofs.Configuration.RoundTrip
import ThemeCascade.Proofs.ClassList.Conservation
import ThemeCascade.Proofs.Cascade.RuleOrder
import ThemeCascade.Proofs.Cascade.ComponentRule
import ThemeCascade.Proofs.Configuration.Respelling
import ThemeCascade.Proofs.ClassList.Planning
import ThemeCascade.Proofs.Cascade.Layers
import ThemeCascade.Proofs.Cascade.Coverage
import ThemeCascade.Proofs.Rule.Brackets
import ThemeCascade.Proofs.Style.Requests
import ThemeCascade.Proofs.Color.NormalForms
import ThemeCascade.Proofs.Style.Alphabet
import ThemeCascade.Proofs.Path.Location
import ThemeCascade.Proofs.Cascade.ClassWords
import ThemeCascade.Proofs.Cascade.GlobalMark
import ThemeCascade.Proofs.Configuration.Warnings
import ThemeCascade.Rule.Reading
import ThemeCascade.Proofs.Rule.Accounting
import ThemeCascade.Proofs.Rule.Division
