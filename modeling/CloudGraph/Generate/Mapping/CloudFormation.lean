import CloudGraph.Generate.Target

/-!
# Mapping to CloudFormation

The resource types of CloudFormation that component types become, and their default properties.
A type that is not listed has no resource.
-/

namespace CloudGraph.Mapping

def cloudFormation : MappingTable := [
  ("aws-ec2", {
    resourceType := "AWS::EC2::Instance",
    defaults := [("ImageId", .text "ami-0c55b159cbfafe1f0"), ("InstanceType", .text "t3.micro")] }),
  ("aws-lambda", {
    resourceType := "AWS::Lambda::Function",
    defaults := [("Runtime", .text "nodejs18.x"), ("Handler", .text "index.handler")] }),
  ("aws-ecs", { resourceType := "AWS::ECS::Service", defaults := [("DesiredCount", .integer 1)] }),
  ("aws-eks", { resourceType := "AWS::EKS::Cluster" }),
  ("aws-rds", {
    resourceType := "AWS::RDS::DBInstance",
    defaults := [
      ("Engine", .text "postgres"),
      ("DBInstanceClass", .text "db.t3.micro"),
      ("AllocatedStorage", .text "20")] }),
  ("aws-aurora", {
    resourceType := "AWS::RDS::DBCluster",
    defaults := [("Engine", .text "aurora-postgresql")] }),
  ("aws-dynamodb", {
    resourceType := "AWS::DynamoDB::Table",
    defaults := [("BillingMode", .text "PAY_PER_REQUEST")] }),
  ("aws-elasticache", {
    resourceType := "AWS::ElastiCache::CacheCluster",
    defaults := [
      ("Engine", .text "redis"),
      ("CacheNodeType", .text "cache.t3.micro"),
      ("NumCacheNodes", .integer 1)] }),
  ("aws-s3", { resourceType := "AWS::S3::Bucket" }),
  ("aws-efs", { resourceType := "AWS::EFS::FileSystem" }),
  ("aws-elb", { resourceType := "AWS::ElasticLoadBalancing::LoadBalancer" }),
  ("aws-alb", {
    resourceType := "AWS::ElasticLoadBalancingV2::LoadBalancer",
    defaults := [("Type", .text "application")] }),
  ("aws-vpc", {
    resourceType := "AWS::EC2::VPC",
    defaults := [("CidrBlock", .text "10.0.0.0/16")] }),
  ("aws-subnet", {
    resourceType := "AWS::EC2::Subnet",
    defaults := [("CidrBlock", .text "10.0.1.0/24")] }),
  ("aws-security-group", {
    resourceType := "AWS::EC2::SecurityGroup",
    defaults := [("GroupDescription", .text "Managed by infragraph")] }),
  ("aws-waf", { resourceType := "AWS::WAFv2::WebACL", defaults := [("Scope", .text "REGIONAL")] }),
  ("aws-kms", { resourceType := "AWS::KMS::Key", defaults := [("EnableKeyRotation", .flag true)] }),
  ("aws-backup", { resourceType := "AWS::Backup::BackupVault" }),
  ("aws-cloudwatch", {
    resourceType := "AWS::Logs::LogGroup",
    defaults := [("RetentionInDays", .integer 30)] }),
  ("aws-cloudfront", { resourceType := "AWS::CloudFront::Distribution" }),
  ("aws-api-gateway", { resourceType := "AWS::ApiGateway::RestApi" }),
  ("aws-sqs", { resourceType := "AWS::SQS::Queue" }),
  ("aws-route53", { resourceType := "AWS::Route53::HostedZone" })]

end CloudGraph.Mapping
