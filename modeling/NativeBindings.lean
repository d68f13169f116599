import NativeBindings.Command.FileTree
import NativeBindings.Main
import NativeBindings.Proofs.GenerationFaults
import NativeBindings.Proofs.ImportOrder
import NativeBindings.Proofs.Methods
import NativeBindings.Proofs.FieldViews
import NativeBindings.Proofs.HiddenNames
import NativeBindings.Proofs.AliasExpansion
import NativeBindings.Proofs.Arrangement
import NativeBindings.Proofs.AddedMapping
import NativeBindings.Proofs.ModuleNames
import NativeBindings.Proofs.Branches
import NativeBindings.Proofs.DecodedDocuments
import NativeBindings.Proofs.CommandRuns
import NativeBindings.Proofs.Grammar
import NativeBindings.Proofs.WrittenTypes
import NativeBindings.Proofs.FlagPositions
import NativeBindings.Proofs.WideFields
import NativeBindings.Proofs.MemberNames
import NativeBindings.Proofs.Cores
import NativeBindings.Proofs.RepresentedTypes
import NativeBindings.Proofs.ValueTypes
import NativeBindings.Proofs.ReservedFlags
import NativeBindings.Proofs.StructBindings
import NativeBindings.Proofs.ReservedNames
import NativeBindings.Proofs.MemberValues
import NativeBindings.Proofs.SizedFields
import NativeBindings.Proofs.ValidDeclarations
import NativeBindings.Proofs.ArgumentPairs
import NativeBindings.Proofs.OptionRecords
import NativeBindings.Proofs.PackedLeaves
import NativeBindings.Proofs.MixinTexts
import NativeBindings.Native.Builder
