import EnumTables.Value.Equality
import EnumTables.Value.Bits
import EnumTables.DomainClass.Reading
import EnumTables.SourceUnit
import EnumTables.TypeForm.Description
import EnumTables.TypeForm.Evaluation
import EnumTables.ClassObject.Creation
import EnumTables.Accessor
import EnumTables.Generation
import EnumTables.Config.Reading
import EnumTables.Main
import EnumTables.Proofs.Literal.NormalForm
import EnumTables.Proofs.SourceUnit.Agreement
import EnumTables.Proofs.SourceUnit.Failures
import EnumTables.Proofs.Generation
import EnumTables.Proofs.FileTree.Files
import EnumTables.Proofs.Generation.FirstFailure
import EnumTables.Proofs.Generation.Renderings
import EnumTables.Proofs.Literal.Denotation
import EnumTables.Proofs.CommandLine.Agreement
import EnumTables.Proofs.Generation.Imported
import EnumTables.Proofs.ClassObject.Creation
import EnumTables.Proofs.DomainClass.Rows
import EnumTables.Proofs.DomainClass.Table
import EnumTables.Proofs.SourceUnit.Unfolded
import EnumTables.Proofs.SourceUnit.Functions
import EnumTables.Proofs.SourceUnit.Identifiers
import EnumTables.Proofs.CommandLine.Endings
import EnumTables.Proofs.Representation.Resolution
import EnumTables.Proofs.TypeForm.Resolution
import EnumTables.Proofs.Config.Endings
import EnumTables.Proofs.Literal.Faults
import EnumTables.Proofs.Literal.Numbers
import EnumTables.Proofs.Accessor.Overriding
import EnumTables.Proofs.CommandLine.Preservation
import EnumTables.Proofs.DomainClass.Faults
import EnumTables.Proofs.Config.Settings
import EnumTables.Proofs.Identifier.Conversion
import EnumTables.Proofs.SourceUnit.Shapes
import EnumTables.Proofs.Literal.Outcomes
